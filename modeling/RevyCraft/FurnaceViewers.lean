/-
  RevyCraft/FurnaceViewers.lean
  =============================
  **A furnace under several viewers.**

  Every registered viewer ticks the furnace and hands it to the others, so that
  a tick of the core takes as many steps of the furnace as it has viewers
  (`Stepped`).  A furnace that rests does not notice; any other one loses heat
  with every step.
-/
import RevyCraft.ContainerViewers
import RevyCraft.FurnaceAccounts

namespace RevyCraft

open Std
open RevyCraft.Core
open Prog (run)
open ServerCore FurnaceAccounts

/-- The player is online and looks into the container at the position. -/
def ServerCore.views (core : ServerCore) (position : BlockPos) (playerId : PlayerId) : Bool :=
  (core.inventoryOf playerId).isSome &&
    (core.windowOf playerId).bind OpenInventoryWindow.worldPosition = some position

/-- Every window at the position shows the furnace after some steps, after at least one if the
    player is not still to be ticked; and unless nobody was ticked yet, so does the block entity.
    When the viewers are registered, all of them are after the same number of steps. -/
structure Stepped (registered : Prop) (position : BlockPos) (state : OpenContainerState)
    (rest : List PlayerId) (n : Nat) (core : ServerCore) : Prop where
  seated : registered → Seated canonicalContent core
  stands : core.containerKindAt canonicalContent position = some state.kind
  shows : ∀ playerId window, core.views position playerId → core.windowOf playerId = some window →
    ∃ m, window.container = ticked state m ∧ (playerId ∈ rest ∨ 0 < m) ∧ (registered → m = n)
  entity : (∃ m, 0 < m ∧ (registered → m = n) ∧
      core.world.blockEntities[position]? = (ticked state m).blockEntityState.map .container) ∨
    ∃ playerId ∈ rest, core.views position playerId

section Stepping

variable {registered : Prop} {position : BlockPos} {state : OpenContainerState} {n : Nat}
  {s t : ServerCore} {playerId : PlayerId} {rest : List PlayerId}

theorem ticked_succ_place (state : OpenContainerState) (n : Nat) :
    SamePlace (ticked state n) (ticked state (n + 1)) :=
  ⟨canonical_ticksInPlace.kind _, canonical_ticksInPlace.binding _⟩

theorem ticked_place (state : OpenContainerState) (n : Nat) : SamePlace state (ticked state n) := by
  induction n with
  | zero => exact ⟨rfl, rfl⟩
  | succ n ih => exact ih.trans (ticked_succ_place state n)

theorem SamePlace.eq {before after : OpenContainerState} (h : SamePlace before after)
    (hslots : after.localSlots = before.localSlots)
    (hproperties : after.properties = before.properties) : after = before := by
  obtain ⟨kind, binding, slots, properties⟩ := after
  obtain ⟨hkind, hbinding⟩ := h
  cases hkind
  cases hbinding
  cases hslots
  cases hproperties
  rfl

theorem showing_ticked {window : OpenInventoryWindow} {m k : Nat}
    (h : window.container = ticked state m) :
    (window.showing (ticked state k)).container = ticked state k := by
  obtain ⟨hkind, hbinding⟩ := ticked_place state m
  obtain ⟨hkind', hbinding'⟩ := ticked_place state k
  unfold OpenInventoryWindow.showing
  dsimp only
  rw [h, hkind, hbinding, ← hkind', ← hbinding']

theorem views_iff : s.views position playerId ↔ (s.inventoryOf playerId).isSome ∧
    ∃ window, s.windowOf playerId = some window ∧ window.worldPosition = some position := by
  simp [ServerCore.views, Option.bind_eq_some_iff]

theorem Seated.mem_otherViewers (h : Seated canonicalContent s) {actorId : PlayerId}
    (hviews : s.views position playerId) (hother : playerId ≠ actorId) :
    playerId ∈ s.otherViewers position actorId := by
  obtain ⟨-, window, hwindow, hat⟩ := views_iff.mp hviews
  obtain ⟨entry, hentry, hlisted⟩ := ((h.toExact.viewersExact position).listed playerId
    window.windowId).mpr ⟨window, hwindow, hat, rfl⟩
  unfold ServerCore.otherViewers
  rw [hentry, List.mem_filter]
  refine ⟨?_, by simpa using hother⟩
  rw [Option.map_some, Option.getD_some, ExtTreeMap.mem_keys, ExtTreeMap.mem_iff_isSome_getElem?,
    hlisted]
  rfl

theorem Stepped.skip (hs : Stepped registered position state (playerId :: rest) n s)
    (hnot : ¬ s.views position playerId) (hseated : registered → Seated canonicalContent t)
    (hkinds : ∀ place, t.containerKindAt canonicalContent place =
      s.containerKindAt canonicalContent place)
    (hviews : ∀ other, t.views position other = s.views position other)
    (hkept : ∀ other, s.views position other → t.windowOf other = s.windowOf other)
    (hentity : t.world.blockEntities[position]? = s.world.blockEntities[position]?) :
    Stepped registered position state rest n t := by
  have hrest : ∀ other, s.views position other → other ∈ playerId :: rest → other ∈ rest := by
    intro other hviewed hmem
    rcases List.mem_cons.mp hmem with rfl | hmem
    · exact absurd hviewed hnot
    · exact hmem
  refine ⟨hseated, by rw [hkinds]; exact hs.stands, fun other shown hviewed hshown => ?_, ?_⟩
  · rw [hviews] at hviewed
    rw [hkept other hviewed] at hshown
    obtain ⟨m, hm, hdone, hsame⟩ := hs.shows other shown hviewed hshown
    exact ⟨m, hm, hdone.imp_left (hrest other hviewed), hsame⟩
  · rw [hentity]
    refine hs.entity.imp_right fun ⟨other, hmem, hviewed⟩ => ⟨other, hrest other hviewed hmem, ?_⟩
    rw [hviews]
    exact hviewed

/-- **The tick of one viewer is one step of the furnace**, for all viewers when they are
    registered; the tick of anybody else is none. -/
theorem tickActiveContainerState_stepped {answer : Option WindowDiffDelta}
    (hs : Stepped registered position state (playerId :: rest) n s)
    (h : run (baseState canonicalContent) (tickActiveContainerState canonicalContent playerId) s =
      .ok (answer, t)) :
    Stepped registered position state rest (n + if s.views position playerId then 1 else 0) t ∧
      ∀ other, t.views position other = s.views position other := by
  have hseated : registered → Seated canonicalContent t := fun hregistered =>
    tickActiveContainerState_seated canonical_agrees playerId s (hs.seated hregistered) answer t h
  have hwithin := tickActiveContainerState_within (C := canonicalContent) playerId
  have hkinds := containerKindAt_of_same (hwithin.same (by decide) h)
  have hinventories := hwithin.inventoryOf_isSome (by decide) h
  by_cases hticks : (s.inventoryOf playerId).isSome ∧ ∃ window, s.windowOf playerId = some window
  swap
  · have hsame : t = s := by
      rcases tickActiveContainerState_ok h with ⟨-, -, hsame⟩ |
        ⟨session, window, inventory, hsession, hopen, hinventory, -⟩
      · exact hsame
      · refine absurd ⟨by rw [hinventory]; rfl, window, ?_⟩ hticks
        unfold ServerCore.windowOf
        rw [hsession]
        exact hopen
    subst hsame
    have hnot : ¬ t.views position playerId := fun hviewed => by
      obtain ⟨hinventory, window, hwindow, -⟩ := views_iff.mp hviewed
      exact hticks ⟨hinventory, window, hwindow⟩
    rw [if_neg hnot]
    exact ⟨hs.skip hnot hs.seated (fun _ => rfl) (fun _ => rfl) (fun _ _ => rfl) rfl, fun _ => rfl⟩
  obtain ⟨hinventory, window, hwindow⟩ := hticks
  obtain ⟨hown, hothers, hentities, hreach⟩ := tickActiveContainerState_shows hinventory hwindow h
  have hposition : (window.ticked canonicalContent).worldPosition = window.worldPosition :=
    canonical_ticksInPlace.worldPosition window.container
  have hviews : ∀ other, t.views position other = s.views position other := by
    intro other
    unfold ServerCore.views
    rw [hinventories]
    by_cases hsame : other = playerId
    · rw [hsame, hown, hwindow, Option.bind_some, Option.bind_some, hposition]
    · rcases hothers other hsame with hkept | ⟨before, place, hbefore, -, -, hafter⟩
      · rw [hkept]
      · rw [hafter, hbefore]
        rfl
  refine ⟨?_, hviews⟩
  by_cases hhere : window.worldPosition = some position
  swap
  · have hnot : ¬ s.views position playerId := fun hviewed => by
      obtain ⟨-, window', hwindow', hat⟩ := views_iff.mp hviewed
      rw [hwindow] at hwindow'
      cases hwindow'
      exact hhere hat
    rw [if_neg hnot]
    refine hs.skip hnot hseated hkinds hviews (fun other hviewed => ?_) ?_
    · have hsame : other ≠ playerId := fun hsame => hnot (hsame ▸ hviewed)
      rcases hothers other hsame with hkept | ⟨before, place, hbefore, hwhere, hshows, -⟩
      · exact hkept
      · obtain ⟨-, shown, hshown, hat⟩ := views_iff.mp hviewed
        rw [hbefore] at hshown
        cases hshown
        rw [hposition] at hwhere
        exact absurd (hwhere.trans (hshows.1.symm.trans hat)) hhere
    · rw [hentities position, if_neg (by rw [hposition]; exact fun h => hhere h.1)]
  · have hactor : s.views position playerId := views_iff.mpr ⟨hinventory, window, hwindow, hhere⟩
    obtain ⟨m, hshown, -, hcount⟩ := hs.shows playerId window hactor hwindow
    have hnext : (window.ticked canonicalContent).container = ticked state (m + 1) :=
      congrArg canonicalContent.tickContainer hshown
    have hcount' : registered → m + 1 = n + 1 := fun hregistered => by rw [hcount hregistered]
    rw [if_pos hactor]
    refine ⟨hseated, by rw [hkinds]; exact hs.stands, fun other shown hviewed hother => ?_,
      .inl ⟨m + 1, Nat.succ_pos m, hcount', ?_⟩⟩
    · by_cases hsame : other = playerId
      · rw [hsame, hown] at hother
        cases hother
        exact ⟨m + 1, hnext, .inr (Nat.succ_pos m), hcount'⟩
      rw [hviews] at hviewed
      obtain ⟨hthere, before, hbefore, hplace⟩ := views_iff.mp hviewed
      obtain ⟨k, hk, hdone, hcounted⟩ := hs.shows other before hviewed hbefore
      rcases hothers other hsame with hkept | ⟨before', place, hbefore', -, -, hafter⟩
      · rw [hkept, hbefore] at hother
        cases hother
        by_cases hregistered : registered
        · have hkind : shown.container.kind = (window.ticked canonicalContent).container.kind := by
            rw [hk, hnext, (ticked_place state k).1, (ticked_place state (m + 1)).1]
          refine ⟨m + 1, ?_, .inr (Nat.succ_pos m), hcount'⟩
          rcases hreach position other shown hhere (hposition.trans hhere)
            ((hs.seated hregistered).mem_otherViewers hviewed hsame) hthere hbefore
            ⟨hplace, hkind⟩ with ⟨hslots, hproperties⟩ | hreached
          · -- The step showed nothing new: what the others show is already the next state.
            rw [hnext, hshown] at hslots hproperties
            rw [hk, hcounted hregistered, ← hcount hregistered]
            exact ((ticked_succ_place state m).eq hslots hproperties).symm
          · rw [hkept, hbefore, hnext] at hreached
            exact (congrArg OpenInventoryWindow.container (Option.some.inj hreached)).trans
              (showing_ticked hk)
        · refine ⟨k, hk, hdone.imp_left fun hmem => ?_, fun hr => absurd hr hregistered⟩
          exact (List.mem_cons.mp hmem).resolve_left hsame
      · rw [hbefore] at hbefore'
        cases hbefore'
        rw [hafter, hnext] at hother
        cases hother
        exact ⟨m + 1, showing_ticked hk, .inr (Nat.succ_pos m), hcount'⟩
    · rw [hentities position, if_pos, hnext]
      rw [hposition, hnext, (ticked_place state (m + 1)).1]
      exact ⟨hhere, hs.stands⟩

theorem reduceOps_stepped {nowMs : Nat} {players : BTreeSet PlayerId} {playerIds : List PlayerId}
    (hs : Stepped registered position state playerIds n s)
    (hrun : reduceOps canonicalContent nowMs players (playerIds.map .tickActiveContainer) s =
      .ok t) :
    Stepped registered position state [] (n + playerIds.countP (s.views position)) t := by
  induction playerIds generalizing n s with
  | nil =>
    cases hrun
    exact hs
  | cons first rest ih =>
    obtain ⟨⟨applied, u⟩, hop, hrest⟩ := except_bind_eq_ok.mp hrun
    obtain ⟨answer, v, htick, hdone⟩ := Prog.run_bind_ok hop
    cases hdone
    obtain ⟨hstepped, hviews⟩ := tickActiveContainerState_stepped hs htick
    have hrun' := ih hstepped hrest
    rw [show u.views position = s.views position from funext hviews] at hrun'
    rw [List.countP_cons, Nat.add_comm (List.countP ..), ← Nat.add_assoc]
    exact hrun'

end Stepping

/-! ### One tick -/

variable {core : ServerCore}

section Tick

variable {position : BlockPos} {state : OpenContainerState}

/-- A core as it is after a run in which the ids of the entities did not run out. -/
def ServerCore.Reached (core : ServerCore) : Prop :=
  ∃ start batches commits, ∃ last : CoreVersion, start.Started ∧
    runBatches canonicalContent (.initial start) batches = .ok (last, commits) ∧
    last.state = core ∧ core.allocatedEntityIds < 2 ^ 31 - 2

theorem ServerCore.Reached.seated (h : core.Reached) : Seated canonicalContent core := by
  obtain ⟨start, batches, commits, last, hstart, hrun, rfl, hids⟩ := h
  have hleft : last.state.entities.nextEntityId < i32Max := by
    unfold ServerCore.allocatedEntityIds at hids
    unfold i32Max
    omega
  obtain ⟨hconsistent, hexact⟩ := (stable_exact canonical_agrees).leads (runBatches_leads hrun)
    (fun _ => ⟨hstart.consistent, hstart.exact⟩) hleft
  exact ⟨hexact, hconsistent.attended⟩

/-- **One tick is some steps of the furnace**, at least one, and one for each of its viewers when
    they are registered. -/
theorem tick_steps {core' : ServerCore} {nowMs : Nat} {events : List TargetedEvent}
    {registered : Prop} (hseated : registered → Seated canonicalContent core)
    (hstands : core.containerKindAt canonicalContent position = some state.kind)
    (hviewer : ∃ playerId, core.views position playerId)
    (hshows : ∀ playerId window, core.windowOf playerId = some window →
      window.worldPosition = some position → window.container = state)
    (hagree : ¬ registered → ∀ m, 0 < m → ticked state m = ticked state 1)
    (htick : core.tick canonicalContent nowMs = .ok (events, core'))
    (hstill : core'.containerKindAt canonicalContent position = some state.kind) : ∃ m, 0 < m ∧
      (registered → m = core.sessions.playerSessions.keys.countP (core.views position)) ∧
      core'.world.blockEntities[position]? = (ticked state m).blockEntityState.map .container := by
  obtain ⟨players, core₁, later, hwindows, hlater, hrest⟩ := tick_windows htick
  have hcount : (core.sessions.playerSessions.keys.filter
      fun playerId => (core.windowOf playerId).isSome).countP (core.views position) =
        core.sessions.playerSessions.keys.countP (core.views position) := by
    rw [List.countP_filter]
    refine List.countP_congr fun playerId _ => ?_
    rw [Bool.and_eq_true, and_iff_left_iff_imp]
    intro hviews
    obtain ⟨-, window, hwindow, -⟩ := views_iff.mp hviews
    rw [hwindow]
    rfl
  have hstart : Stepped registered position state (core.sessions.playerSessions.keys.filter
      fun playerId => (core.windowOf playerId).isSome) 0 core := by
    refine ⟨hseated, hstands, fun playerId window hviews hwindow => ?_, .inr ?_⟩
    · obtain ⟨-, window', hwindow', hat⟩ := views_iff.mp hviews
      rw [hwindow] at hwindow'
      cases hwindow'
      exact ⟨0, hshows playerId window hwindow hat, .inl (mem_keys_of_window hwindow), fun _ => rfl⟩
    · obtain ⟨playerId, hviews⟩ := hviewer
      obtain ⟨-, window, hwindow, -⟩ := views_iff.mp hviews
      exact ⟨playerId, mem_keys_of_window hwindow, hviews⟩
  have hstepped := reduceOps_stepped hstart hwindows
  rw [Nat.zero_add, hcount] at hstepped
  obtain ⟨m, hm, hregistered, hentity⟩ | ⟨playerId, hmem, -⟩ := hstepped.entity
  swap
  · cases hmem
  refine ⟨m, hm, hregistered, ?_⟩
  have hsettled : Settled canonicalContent position (ticked state m) core₁ := by
    refine fun _ => ⟨hentity, fun playerId window hinventory hwindow hat => ?_⟩
    obtain ⟨k, hk, hdone, hsame⟩ := hstepped.shows playerId window
      (views_iff.mpr ⟨hinventory, window, hwindow, hat⟩) hwindow
    have hpos := hdone.resolve_left List.not_mem_nil
    by_cases hr : registered
    · rw [hk, hsame hr, hregistered hr]
    · rw [hk, hagree hr k hpos, hagree hr m hm]
  refine (reduceOps_settled hlater hsettled hrest ?_).1
  rw [(ticked_place state m).1]
  exact hstill

theorem heat_ticked_le (hkind : state.kind = Ids.FURNACE) {n m : Nat} (h : n ≤ m) :
    heat (ticked state m) ≤ heat (ticked state n) := by
  induction m with
  | zero =>
    have hzero : n = 0 := by omega
    rw [hzero]
  | succ m ih =>
    by_cases hlast : n = m + 1
    · rw [hlast]
    · have hfurnace := (ticked_place state m).1.trans hkind
      have hstep : ticked state (m + 1) = Canonical.tickFurnace (ticked state m) := if_pos hfurnace
      have hheat := tick_heat hfurnace
      rw [← hstep] at hheat
      have hrest := ih (by omega)
      split_ifs at hheat <;> omega

/-- **One tick is one step of the furnace** under several viewers whose windows agree when the
    furnace rests; and in a core that was reached by a run, only then. -/
theorem tick_advances_furnace_once {core core' : ServerCore} {nowMs : Nat}
    {events : List TargetedEvent} {first second : PlayerId}
    (hstands : core.containerKindAt canonicalContent position = some Ids.FURNACE)
    (hdistinct : first ≠ second) (hfirst : core.Sees position Ids.FURNACE first)
    (hsecond : core.Sees position Ids.FURNACE second)
    (hshows : ∀ playerId window, core.windowOf playerId = some window →
      window.worldPosition = some position → window.container = state)
    (htick : core.tick canonicalContent nowMs = .ok (events, core'))
    (hstill : core'.containerKindAt canonicalContent position = some Ids.FURNACE) :
    (Rests state → core'.world.blockEntities[position]? =
      (canonicalContent.tickContainer state).blockEntityState.map .container) ∧
    (core.Reached → core'.world.blockEntities[position]? =
      (canonicalContent.tickContainer state).blockEntityState.map .container → Rests state) := by
  obtain ⟨hinventory, window, hwindow, hat, hfurnace⟩ := hfirst
  obtain ⟨hinventory', window', hwindow', hat', -⟩ := hsecond
  have hkind : state.kind = Ids.FURNACE := by
    rw [← hshows first window hwindow hat]
    exact hfurnace
  have hstep : canonicalContent.tickContainer state = Canonical.tickFurnace state := if_pos hkind
  rw [← hkind] at hstands hstill
  have hviews : core.views position first := views_iff.mpr ⟨hinventory, window, hwindow, hat⟩
  have hviews' : core.views position second := views_iff.mpr ⟨hinventory', window', hwindow', hat'⟩
  constructor
  · intro hrests
    have hagree : ∀ m, 0 < m → ticked state m = ticked state 1 := by
      intro m hm
      induction m, hm using Nat.le_induction with
      | base => rfl
      | succ m _ ih =>
        change canonicalContent.tickContainer (ticked state m) = _
        have hkind' : (Canonical.tickFurnace state).kind = Ids.FURNACE :=
          (tickFurnace_place state).1.trans hkind
        rw [ih, show ticked state 1 = Canonical.tickFurnace state from hstep,
          show canonicalContent.tickContainer (Canonical.tickFurnace state) =
            Canonical.tickFurnace (Canonical.tickFurnace state) from if_pos hkind']
        exact hrests.again hkind
    obtain ⟨m, hm, -, hentity⟩ := tick_steps (fun h : False => h.elim) hstands
      ⟨first, hviews⟩ hshows (fun _ => hagree) htick hstill
    rw [hentity, hagree m hm]
    rfl
  · intro hreached honce
    obtain ⟨n, -, hn, hentity⟩ := tick_steps (fun _ => hreached.seated) hstands ⟨first, hviews⟩
      hshows (fun h => absurd trivial h) htick hstill
    rw [hentity] at honce
    have htwo : 2 ≤ core.sessions.playerSessions.keys.countP (core.views position) := by
      rw [List.countP_eq_length_filter]
      have hpair : [first, second] ⊆ core.sessions.playerSessions.keys.filter
          (core.views position) := by
        intro playerId hmem
        rcases List.mem_pair.mp hmem with rfl | rfl
        · exact List.mem_filter.mpr ⟨(List.mem_filter.mp (mem_keys_of_window hwindow)).1, hviews⟩
        · exact List.mem_filter.mpr ⟨(List.mem_filter.mp (mem_keys_of_window hwindow')).1, hviews'⟩
      exact (List.subperm_of_subset (by simpa using hdistinct) hpair).length_le
    rw [← hn trivial] at htwo
    have hsame : heat (ticked state n) = heat (ticked state 1) := by
      have hblock : ∃ kind, state.blockEntityKind = some kind := by
        have hplace : state.worldPosition = some position := by
          rw [← hshows first window hwindow hat]
          exact hat
        unfold OpenContainerState.worldPosition at hplace
        unfold OpenContainerState.blockEntityKind
        cases hbinding : state.binding with
        | virtual =>
          rw [hbinding] at hplace
          cases hplace
        | block place kind => exact ⟨kind, rfl⟩
      obtain ⟨kind, hblock⟩ := hblock
      have hkept : ∀ m, (ticked state m).blockEntityKind = some kind := by
        intro m
        rw [← hblock]
        unfold OpenContainerState.blockEntityKind
        rw [(ticked_place state m).2]
      change (ticked state n).blockEntityState.map BlockEntityState.container =
        (ticked state 1).blockEntityState.map BlockEntityState.container at honce
      unfold OpenContainerState.blockEntityState at honce
      rw [hkept, hkept] at honce
      injection honce with honce
      injection honce with honce
      injection honce with _ hslots hproperties
      unfold heat burnLeft Canonical.property slotAt
      rw [hslots, hproperties]
    by_contra hburns
    rw [rests_iff hkind, ← hstep] at hburns
    have hfurnace' := (ticked_place state 1).1.trans hkind
    have hheat := tick_heat hfurnace'
    rw [← show ticked state 2 = Canonical.tickFurnace (ticked state 1) from if_pos hfurnace',
      if_pos (show 0 < burnLeft (ticked state 1) from Int.not_le.mp hburns)] at hheat
    have hless := heat_ticked_le hkind htwo
    omega

/-- All players of a core look into the furnace, whose state is the given one. -/
def AllShow (core : ServerCore) (state : OpenContainerState) : Prop :=
  ∀ entry ∈ core.sessions.playerSessions.toList,
    entry.2.activeContainer.map (·.container) = some state

theorem AllShow.windowOf {state : OpenContainerState} (h : AllShow core state) {playerId : PlayerId}
    {window : OpenInventoryWindow} (hwindow : core.windowOf playerId = some window) :
    window.container = state := by
  unfold ServerCore.windowOf at hwindow
  cases hsession : core.sessions.playerSessions[playerId]? with
  | none =>
    rw [hsession] at hwindow
    cases hwindow
  | some session =>
    rw [hsession, Option.bind_some] at hwindow
    have hshown := h (playerId, session) (BTreeMap.mem_toList.mpr hsession)
    rw [hwindow] at hshown
    exact Option.some.inj hshown

instance (core : ServerCore) (state : OpenContainerState) : Decidable (AllShow core state) :=
  inferInstanceAs (Decidable (∀ entry ∈ core.sessions.playerSessions.toList, _))

/-- A stored world with a furnace whose fire is about to go out, sand in it and no more fuel. -/
def dyingFurnaceWorld : WorldSnapshot :=
  { furnaceWorld with
    blockEntities := (∅ : BTreeMap BlockPos BlockEntityState).insert furnacePosition (.container
      ⟨Ids.FURNACE, [some (.new "minecraft:sand" 3 0), none, none],
        ExtTreeMap.ofList [(Ids.FURNACE_BURN_LEFT, 1), (Ids.FURNACE_BURN_MAX, 100),
          (Ids.FURNACE_COOK_PROGRESS, 40), (Ids.FURNACE_COOK_TOTAL, 200)] compare⟩) }

def visitFurnaceTogether : MutationBatch :=
  ⟨[.applyCommand (.loginStart ⟨1⟩ "alice" ⟨7⟩) 5, .applyCommand (.loginStart ⟨2⟩ "bob" ⟨8⟩) 5,
    .applyCommand (.gameplay (.useBlock ⟨7⟩ .main furnacePosition (some .top) none)) 5,
    .applyCommand (.gameplay (.useBlock ⟨8⟩ .main furnacePosition (some .top) none)) 5], [], true⟩

/-- The fire goes out once, before the eyes of two players. -/
theorem tick_advances_furnace_once_dying :
    ∃ last commits window events core',
      runBatches canonicalContent (.initial (.fromSnapshot .default dyingFurnaceWorld))
        [visitFurnaceTogether] = .ok (last, commits) ∧
      last.state.Reached ∧ last.state.windowOf ⟨7⟩ = some window ∧
      last.state.Sees furnacePosition Ids.FURNACE ⟨8⟩ ∧
      canonicalContent.tickContainer window.container ≠ window.container ∧
      last.state.tick canonicalContent 55 = .ok (events, core') ∧
      core'.world.blockEntities[furnacePosition]? =
        (canonicalContent.tickContainer window.container).blockEntityState.map .container := by
  have hrun : endsWith (fun ran => decide (ran.1.state.allocatedEntityIds < 2 ^ 31 - 2) &&
      endsWith (fun ticked => decide (
        ∃ window ∈ ran.1.state.windowOf ⟨7⟩, ∃ window' ∈ ran.1.state.windowOf ⟨8⟩,
          (ran.1.state.inventoryOf ⟨7⟩).isSome ∧ (ran.1.state.inventoryOf ⟨8⟩).isSome ∧
          window.ShowsAt furnacePosition Ids.FURNACE ∧ window'.ShowsAt furnacePosition Ids.FURNACE ∧
          ran.1.state.containerKindAt canonicalContent furnacePosition = some Ids.FURNACE ∧
          ticked.2.containerKindAt canonicalContent furnacePosition = some Ids.FURNACE ∧
          AllShow ran.1.state window.container ∧ Rests window.container ∧
          canonicalContent.tickContainer window.container ≠ window.container))
        (ran.1.state.tick canonicalContent 55))
      (runBatches canonicalContent (.initial (.fromSnapshot .default dyingFurnaceWorld))
        [visitFurnaceTogether]) = true := by
    decide +kernel
  obtain ⟨⟨last, commits⟩, hlast, hends⟩ := endsWith_iff.mp hrun
  obtain ⟨hids, hticks⟩ := (Bool.and_eq_true ..).mp hends
  obtain ⟨⟨events, core'⟩, htick, hchecks⟩ := endsWith_iff.mp hticks
  obtain ⟨window, hwindow, window', hwindow', hinventory, hinventory', hshows, hshows', hstands,
    hstill, hall, hrests, hmoves⟩ := of_decide_eq_true hchecks
  have hreached : last.state.Reached := ⟨_, _, commits, last,
    .fromSnapshot .default dyingFurnaceWorld, hlast, rfl, of_decide_eq_true hids⟩
  refine ⟨last, commits, window, events, core', hlast, hreached, hwindow,
    ⟨hinventory', window', hwindow', hshows'⟩, hmoves, htick, ?_⟩
  exact (tick_advances_furnace_once hstands (by decide) ⟨hinventory, window, hwindow, hshows⟩
    ⟨hinventory', window', hwindow', hshows'⟩ (fun _ _ hshown _ => hall.windowOf hshown) htick
    hstill).1 hrests

theorem two_viewers_advance_furnace_twice :
    ∃ events core window window' events' core',
      (ServerCore.fromSnapshot .default furnaceWorld).runSteps canonicalContent furnaceFed =
        .ok (events, core) ∧
      core.windowOf ⟨7⟩ = some window ∧ core.windowOf ⟨8⟩ = some window' ∧
      window'.container = window.container ∧
      core.world.blockEntities[furnacePosition]? =
        window.container.blockEntityState.map .container ∧
      core.tick canonicalContent 55 = .ok (events', core') ∧
      core'.world.blockEntities[furnacePosition]? ≠
        (canonicalContent.tickContainer window.container).blockEntityState.map .container ∧
      core'.world.blockEntities[furnacePosition]? = (canonicalContent.tickContainer
        (canonicalContent.tickContainer window.container)).blockEntityState.map .container := by
  have hrun : endsWith (fun ran =>
      endsWith (fun ticked => decide (
        ∃ window ∈ ran.2.windowOf ⟨7⟩, ∃ window' ∈ ran.2.windowOf ⟨8⟩,
          window'.container = window.container ∧
          ran.2.world.blockEntities[furnacePosition]? =
            window.container.blockEntityState.map .container ∧
          ticked.2.world.blockEntities[furnacePosition]? ≠
            (canonicalContent.tickContainer window.container).blockEntityState.map .container ∧
          ticked.2.world.blockEntities[furnacePosition]? = (canonicalContent.tickContainer
            (canonicalContent.tickContainer window.container)).blockEntityState.map .container))
        (ran.2.tick canonicalContent 55))
      ((ServerCore.fromSnapshot .default furnaceWorld).runSteps canonicalContent furnaceFed) =
        true := by
    decide +kernel
  obtain ⟨⟨events, core⟩, hsteps, hticks⟩ := endsWith_iff.mp hrun
  obtain ⟨⟨events', core'⟩, htick, hchecks⟩ := endsWith_iff.mp hticks
  obtain ⟨window, hwindow, window', hwindow', hsame, hentity, honce, htwice⟩ :=
    of_decide_eq_true hchecks
  exact ⟨events, core, window, window', events', core', hsteps, hwindow, hwindow', hsame, hentity,
    htick, honce, htwice⟩

end Tick

end RevyCraft
