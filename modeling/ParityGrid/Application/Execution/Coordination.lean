import ParityGrid.Foundation.Transition
import ParityGrid.Application.Execution.Capacity

/-!
# What the capacity coordinator keeps

Every ledger accounts for its slots, holders are nested from node to strategy
to global, and the queues are the owners of the parked calls.  Taking and
releasing one level keep all of this when the levels are taken in order; the
atomic acquisition and release are sequences of such steps.
-/

namespace ParityGrid.Application

open Foundation

/-! ## Ledgers -/

/-- Owners are distinct, and held and free slots together are `1..limit`. -/
structure Ledger.Balanced (ledger : Ledger) : Prop where
  owners : (ledger.held.map Prod.fst).Nodup
  slots : (ledger.held.map Prod.snd ++ ledger.freeSlots).Perm
    (List.range' 1 ledger.limit)

theorem Ledger.new_balanced (category : Category) (limit : Nat) :
    (Ledger.new category limit).Balanced :=
  ⟨List.nodup_nil, List.Perm.refl _⟩

theorem Ledger.nextSlot_mem {ledger : Ledger}
    (free : ledger.freeSlots ≠ []) : ledger.nextSlot ∈ ledger.freeSlots := by
  obtain ⟨slot, least⟩ := Option.isSome_iff_exists.mp
    (List.isSome_min?_of_ne_nil free)
  rw [nextSlot, least]
  exact List.min?_mem least

theorem Ledger.holds_iff {ledger : Ledger} {owner : Text} :
    ledger.holds owner ↔ owner ∈ ledger.held.map Prod.fst := by
  rw [holds, lookup_isSome]

theorem Ledger.grant_holds (ledger : Ledger) (owner other : Text) :
    (ledger.grant owner).holds other ↔
      ledger.holds other ∨ other = owner := by
  rw [holds_iff, holds_iff]
  simp only [grant, mem_keys_alter]

theorem Ledger.ungrant_holds (ledger : Ledger) (owner other : Text) :
    (ledger.ungrant owner).holds other ↔
      other ≠ owner ∧ ledger.holds other := by
  rw [holds_iff, holds_iff]
  simp only [ungrant]
  split
  next absent =>
    have none_ : owner ∉ ledger.held.map Prod.fst := by
      rw [← lookup_isSome, absent]
      simp
    constructor
    · exact fun held => ⟨fun same => none_ (same ▸ held), held⟩
    · exact And.right
  next => exact mem_keys_discard

theorem Ledger.Balanced.grant {ledger : Ledger} {owner : Text}
    (balanced : ledger.Balanced) (free : ledger.freeSlots ≠ [])
    (idle : ¬ ledger.holds owner) : (ledger.grant owner).Balanced := by
  rw [Ledger.holds_iff] at idle
  constructor
  · exact nodup_alter balanced.owners
  · simp only [Ledger.grant, alter_of_notMem idle, List.map_append, List.map_cons,
      List.map_nil, List.append_assoc, List.singleton_append]
    exact ((List.perm_cons_erase (Ledger.nextSlot_mem free)).symm.append_left
      _).trans balanced.slots

theorem Ledger.Balanced.ungrant {ledger : Ledger}
    (balanced : ledger.Balanced) (owner : Text) :
    (ledger.ungrant owner).Balanced := by
  simp only [Ledger.ungrant]
  split
  · exact balanced
  next slot found =>
    have inside : (owner, slot) ∈ ledger.held :=
      (lookup_eq_some_iff_mem balanced.owners).mp found
    have split_ := (perm_cons_discard balanced.owners inside).map Prod.snd
    have slots := (split_.append_right ledger.freeSlots).symm.trans
      balanced.slots
    have fresh : slot ∉ ledger.freeSlots := by
      have distinct := slots.nodup_iff.mpr List.nodup_range'
      simp only [List.map_cons, List.cons_append, List.nodup_cons,
        List.mem_append, not_or] at distinct
      exact distinct.1.2
    constructor
    · exact nodup_discard balanced.owners
    · simp only [List.insert_of_not_mem fresh]
      exact List.perm_middle.trans slots

@[simp]
theorem Ledger.grant_limit (ledger : Ledger) (owner : Text) :
    (ledger.grant owner).limit = ledger.limit := rfl

@[simp]
theorem Ledger.grant_waiters (ledger : Ledger) (owner : Text) :
    (ledger.grant owner).waiters = ledger.waiters.erase owner := rfl

@[simp]
theorem Ledger.ungrant_limit (ledger : Ledger) (owner : Text) :
    (ledger.ungrant owner).limit = ledger.limit := by
  simp only [ungrant]
  split <;> rfl

@[simp]
theorem Ledger.ungrant_waiters (ledger : Ledger) (owner : Text) :
    (ledger.ungrant owner).waiters = ledger.waiters := by
  simp only [ungrant]
  split <;> rfl

/-! ## The invariant -/

namespace ScheduledWorkLimiters

@[simp]
theorem update_ledger (limiters : ScheduledWorkLimiters)
    (level other : Level) (change : Ledger → Ledger) :
    (limiters.update level change).ledger other =
      if other = level then change (limiters.ledger other)
      else limiters.ledger other := by
  simp only [update]
  split
  next same => rw [same]
  next => rfl

/-- The owners of the parked calls that wait at one level. -/
def waitersAt (limiters : ScheduledWorkLimiters) (level : Level) :
    List Text :=
  (limiters.parked.filter fun call => level ∈ levelsOf call.node).map
    ParkedCall.owner

/-- What every section of the coordinator keeps. -/
structure Coordinated (limiters : ScheduledWorkLimiters) : Prop where
  balanced : ∀ level, (limiters.ledger level).Balanced
  underGlobal : ∀ owner, (limiters.ledger .strategy).holds owner →
    (limiters.ledger .global).holds owner
  underStrategy : ∀ node owner, (limiters.ledger (.node node)).holds owner →
    (limiters.ledger .strategy).holds owner
  oneNode : ∀ node other owner,
    (limiters.ledger (.node node)).holds owner →
    (limiters.ledger (.node other)).holds owner → node = other
  registered : ∀ node owner, (limiters.ledger (.node node)).holds owner →
    node ∈ limiters.nodeIds
  apart : (limiters.parked.map ParkedCall.owner).Nodup
  queues : ∀ level,
    (limiters.ledger level).waiters = limiters.waitersAt level
  idle : ∀ call ∈ limiters.parked,
    ¬ (limiters.ledger .global).holds call.owner
  nodes : ∀ call ∈ limiters.parked, call.node ∈ limiters.nodeIds
  own : ∀ owner, ∀ permit ∈ limiters.subordinates owner,
    permit.owner = owner
  covered : ∀ owner, limiters.subordinates owner ≠ [] →
    limiters.holdsAll owner

variable {limiters : ScheduledWorkLimiters}

theorem anyNodeHolds_iff (limiters : ScheduledWorkLimiters) (owner : Text) :
    limiters.anyNodeHolds owner ↔
      ∃ node ∈ limiters.nodeIds,
        (limiters.ledger (.node node)).holds owner := by
  simp [anyNodeHolds]

/-- The level that an owner may take next. -/
def Next (limiters : ScheduledWorkLimiters) (owner : Text) : Level → Prop
  | .global => ¬ (limiters.ledger .global).holds owner
  | .strategy => (limiters.ledger .global).holds owner ∧
      ¬ (limiters.ledger .strategy).holds owner
  | .node node => node ∈ limiters.nodeIds ∧
      (limiters.ledger .strategy).holds owner ∧
      ∀ other, ¬ (limiters.ledger (.node other)).holds owner

/-- Who is not parked waits nowhere. -/
theorem Coordinated.not_waiting (coordinated : limiters.Coordinated)
    {owner : Text} (fresh : ∀ call ∈ limiters.parked, call.owner ≠ owner)
    (level : Level) : owner ∉ (limiters.ledger level).waiters := by
  rw [coordinated.queues, waitersAt]
  intro inside
  obtain ⟨call, member, same⟩ := List.mem_map.mp inside
  exact fresh call (List.mem_filter.mp member).1 same

theorem grant_holds (limiters : ScheduledWorkLimiters) (level other : Level)
    (owner who : Text) :
    ((limiters.grant level owner).2.ledger other).holds who ↔
      (limiters.ledger other).holds who ∨
        (other = level ∧ who = owner) := by
  simp only [ScheduledWorkLimiters.grant, update_ledger]
  by_cases same : other = level
  · simp [same, Ledger.grant_holds]
  · simp [same]

/-- Taking the next level keeps the invariant. -/
theorem Coordinated.grant (coordinated : limiters.Coordinated)
    (level : Level) {owner : Text}
    (free : (limiters.ledger level).freeSlots ≠ [])
    (fresh : ∀ call ∈ limiters.parked, call.owner ≠ owner)
    (next : limiters.Next owner level) :
    (limiters.grant level owner).2.Coordinated := by
  have idle : ¬ (limiters.ledger level).holds owner := by
    cases level with
    | global => exact next
    | strategy => exact next.2
    | node node => exact next.2.2 node
  have holds (other : Level) (who : Text) :=
    grant_holds limiters level other owner who
  refine
    { balanced := ?_, underGlobal := ?_, underStrategy := ?_, oneNode := ?_,
      registered := ?_, apart := coordinated.apart, queues := ?_,
      idle := ?_, nodes := coordinated.nodes, own := coordinated.own,
      covered := ?_ }
  · intro other
    simp only [ScheduledWorkLimiters.grant, update_ledger]
    split
    next same =>
      subst same
      exact (coordinated.balanced other).grant free idle
    next => exact coordinated.balanced other
  · intro who
    rw [holds, holds]
    rintro (held | ⟨rfl, rfl⟩)
    · exact .inl (coordinated.underGlobal who held)
    · exact .inl next.1
  · intro node who
    rw [holds, holds]
    rintro (held | ⟨rfl, rfl⟩)
    · exact .inl (coordinated.underStrategy node who held)
    · exact .inl next.2.1
  · intro node other who
    rw [holds, holds]
    rintro (held | ⟨taken, whose⟩) (also | ⟨same, whose'⟩)
    · exact coordinated.oneNode node other who held also
    · subst same whose'
      exact absurd held (next.2.2 node)
    · subst taken whose
      exact absurd also (next.2.2 other)
    · exact Level.node.inj (taken.trans same.symm)
  · intro node who
    rw [holds]
    rintro (held | ⟨rfl, rfl⟩)
    · exact coordinated.registered node who held
    · exact next.1
  · intro other
    simp only [ScheduledWorkLimiters.grant, update_ledger]
    split
    next same =>
      subst same
      rw [Ledger.grant_waiters,
        List.erase_of_not_mem (coordinated.not_waiting fresh _)]
      exact coordinated.queues _
    next => exact coordinated.queues other
  · intro call member
    rw [holds]
    rintro (held | ⟨_, same⟩)
    · exact coordinated.idle call member held
    · exact fresh call member same
  · intro who some_
    have before := coordinated.covered who some_
    simp only [holdsAll, Bool.and_eq_true, anyNodeHolds_iff] at before ⊢
    obtain ⟨⟨global_, strategy⟩, node, member, held⟩ := before
    exact ⟨⟨(holds _ _).mpr (.inl global_), (holds _ _).mpr (.inl strategy)⟩,
      node, member, (holds _ _).mpr (.inl held)⟩

/-- The level that an owner may give back next. -/
def Last (limiters : ScheduledWorkLimiters) (owner : Text) : Level → Prop
  | .global => ¬ (limiters.ledger .strategy).holds owner
  | .strategy => ∀ node, ¬ (limiters.ledger (.node node)).holds owner
  | .node _ => True

theorem release_holds (limiters : ScheduledWorkLimiters)
    (level other : Level) (owner who : Text) :
    ((limiters.update level fun l => l.release owner).ledger
        other).holds who ↔
      (limiters.ledger other).holds who ∧
        ¬ (other = level ∧ who = owner) := by
  rw [update_ledger]
  by_cases same : other = level
  · subst same
    have released : ((limiters.ledger other).release owner).holds who ↔
        ((limiters.ledger other).ungrant owner).holds who := Iff.rfl
    rw [if_pos rfl, released, Ledger.ungrant_holds]
    simp [and_comm]
  · simp [same]

/-- Giving back the last level keeps the invariant. -/
theorem Coordinated.releaseLevel (coordinated : limiters.Coordinated)
    (level : Level) {owner : Text}
    (held : (limiters.ledger level).holds owner)
    (last : limiters.Last owner level)
    (bare : limiters.subordinates owner = []) :
    (limiters.update level fun l => l.release owner).Coordinated := by
  have heldGlobal : (limiters.ledger .global).holds owner := by
    cases level with
    | global => exact held
    | strategy => exact coordinated.underGlobal owner held
    | node node =>
        exact coordinated.underGlobal owner
          (coordinated.underStrategy node owner held)
  have fresh : ∀ call ∈ limiters.parked, call.owner ≠ owner := by
    rintro call member rfl
    exact coordinated.idle call member heldGlobal
  have holds (other : Level) (who : Text) :=
    release_holds limiters level other owner who
  refine
    { balanced := ?_, underGlobal := ?_, underStrategy := ?_, oneNode := ?_,
      registered := ?_, apart := coordinated.apart, queues := ?_,
      idle := ?_, nodes := coordinated.nodes, own := coordinated.own,
      covered := ?_ }
  · intro other
    rw [update_ledger]
    split
    · have balanced := (coordinated.balanced other).ungrant owner
      exact ⟨balanced.owners, balanced.slots⟩
    · exact coordinated.balanced other
  · intro who
    rw [holds, holds]
    rintro ⟨strategy, notTaken⟩
    refine ⟨coordinated.underGlobal who strategy, ?_⟩
    rintro ⟨rfl, rfl⟩
    exact last strategy
  · intro node who
    rw [holds, holds]
    rintro ⟨inNode, notTaken⟩
    refine ⟨coordinated.underStrategy node who inNode, ?_⟩
    rintro ⟨rfl, rfl⟩
    exact last node inNode
  · intro node other who
    rw [holds, holds]
    exact fun first second =>
      coordinated.oneNode node other who first.1 second.1
  · intro node who
    rw [holds]
    exact fun inNode => coordinated.registered node who inNode.1
  · intro other
    rw [update_ledger]
    split
    next same =>
      subst same
      have waiters : ((limiters.ledger other).release owner).waiters =
          (limiters.ledger other).waiters.erase owner := by
        simp [Ledger.release, Ledger.dequeue]
      rw [waiters, List.erase_of_not_mem (coordinated.not_waiting fresh _)]
      exact coordinated.queues _
    next => exact coordinated.queues other
  · intro call member
    rw [holds]
    exact fun inGlobal => coordinated.idle call member inGlobal.1
  · intro who some_
    have other : who ≠ owner := by
      rintro rfl
      exact some_ bare
    have before := coordinated.covered who some_
    simp only [holdsAll, Bool.and_eq_true, anyNodeHolds_iff] at before ⊢
    obtain ⟨⟨global_, strategy⟩, node, member, inNode⟩ := before
    exact ⟨⟨(holds _ _).mpr ⟨global_, fun taken => other taken.2⟩,
        (holds _ _).mpr ⟨strategy, fun taken => other taken.2⟩⟩,
      node, member, (holds _ _).mpr ⟨inNode, fun taken => other taken.2⟩⟩

/-! ## Waiting -/

@[simp]
theorem enqueueAll_ledger (limiters : ScheduledWorkLimiters)
    (owner node : Text) (level : Level) :
    (limiters.enqueueAll owner node).ledger level =
      if level ∈ levelsOf node then (limiters.ledger level).enqueue owner
      else limiters.ledger level := by
  cases level <;> simp [enqueueAll, levelsOf]

@[simp]
theorem leave_ledger (limiters : ScheduledWorkLimiters)
    (owner node : Text) (level : Level) :
    (limiters.leave owner node).ledger level =
      if level ∈ levelsOf node then (limiters.ledger level).dequeue owner
      else limiters.ledger level := by
  cases level <;> simp [leave, levelsOf]

/-- Leaving forgets that the call was in the wait set. -/
theorem leave_park (limiters : ScheduledWorkLimiters) (call : ParkedCall) :
    (limiters.park call).leave call.owner call.node =
      limiters.leave call.owner call.node :=
  ScheduledWorkLimiters.ext rfl rfl rfl rfl
    (without_rejoin ParkedCall.owner call limiters.parked) rfl

/-- Granting and leaving commute. -/
theorem grantAll_leave (limiters : ScheduledWorkLimiters)
    (owner node : Text) :
    (limiters.grantAll owner node).2.leave owner node =
      ((limiters.leave owner node).grantAll owner node).2 := by
  refine ScheduledWorkLimiters.ext rfl rfl (funext fun level => ?_) rfl rfl
    rfl
  rw [leave_ledger]
  cases level with
  | global =>
      simp [grantAll, ScheduledWorkLimiters.grant, levelsOf]
      rfl
  | strategy =>
      simp [grantAll, ScheduledWorkLimiters.grant, levelsOf]
      rfl
  | node other =>
      by_cases same : other = node
      · subst same
        simp [grantAll, ScheduledWorkLimiters.grant, levelsOf]
        rfl
      · simp [grantAll, ScheduledWorkLimiters.grant, levelsOf, same]

theorem Coordinated.waiters_nodup (coordinated : limiters.Coordinated)
    (level : Level) : (limiters.ledger level).waiters.Nodup := by
  rw [coordinated.queues, waitersAt]
  exact coordinated.apart.sublist (List.filter_sublist.map _)

/-- A change of the queues and of the wait set keeps the invariant when the
two agree again. -/
theorem Coordinated.requeue (coordinated : limiters.Coordinated)
    {after : ScheduledWorkLimiters}
    (ledgers : ∀ level, ∃ waiters, after.ledger level =
      { limiters.ledger level with waiters })
    (nodeIds : after.nodeIds = limiters.nodeIds)
    (subordinates : after.subordinates = limiters.subordinates)
    (apart : (after.parked.map ParkedCall.owner).Nodup)
    (queues : ∀ level,
      (after.ledger level).waiters = after.waitersAt level)
    (idle : ∀ call ∈ after.parked,
      ¬ (limiters.ledger .global).holds call.owner)
    (nodes : ∀ call ∈ after.parked, call.node ∈ limiters.nodeIds) :
    after.Coordinated := by
  have holds (level : Level) (who : Text) :
      (after.ledger level).holds who =
        (limiters.ledger level).holds who := by
    obtain ⟨_, same⟩ := ledgers level
    rw [same]
    rfl
  have holdsAll (who : Text) : after.holdsAll who = limiters.holdsAll who := by
    simp only [ScheduledWorkLimiters.holdsAll, anyNodeHolds, holds, nodeIds]
  refine
    { balanced := ?_, underGlobal := ?_, underStrategy := ?_, oneNode := ?_,
      registered := ?_, apart := apart, queues := queues, idle := ?_,
      nodes := ?_, own := ?_, covered := ?_ }
  · intro level
    obtain ⟨_, same⟩ := ledgers level
    rw [same]
    exact ⟨(coordinated.balanced level).owners,
      (coordinated.balanced level).slots⟩
  · simpa only [holds] using coordinated.underGlobal
  · simpa only [holds] using coordinated.underStrategy
  · simpa only [holds] using coordinated.oneNode
  · simpa only [holds, nodeIds] using coordinated.registered
  · simpa only [holds] using idle
  · simpa only [nodeIds] using nodes
  · simpa only [subordinates] using coordinated.own
  · simpa only [subordinates, holdsAll] using coordinated.covered

/-- A parked call that leaves is out of its queues and of the wait set. -/
theorem Coordinated.leave (coordinated : limiters.Coordinated)
    {owner node : Text}
    (waits : ∀ call ∈ limiters.parked, call.owner = owner →
      call.node = node) :
    (limiters.leave owner node).Coordinated := by
  refine coordinated.requeue (fun level => ?_) rfl rfl
    (nodup_without coordinated.apart) ?_ ?_ ?_
  · rw [leave_ledger]
    split
    · exact ⟨_, rfl⟩
    · exact ⟨_, rfl⟩
  · intro level
    have remaining : (limiters.leave owner node).waitersAt level =
        (limiters.waitersAt level).filter fun who => who ≠ owner := by
      have parked : (limiters.leave owner node).parked =
          without ParkedCall.owner owner limiters.parked := rfl
      simp only [waitersAt, parked, without, List.filter_map,
        List.filter_filter]
      congr 1
      apply List.filter_congr
      intro call _
      simp [Bool.and_comm]
    rw [remaining, ← coordinated.queues, leave_ledger]
    split
    next =>
      simp only [Ledger.dequeue,
        (coordinated.waiters_nodup level).erase_eq_filter]
      apply List.filter_congr
      intro who _
      exact Bool.eq_iff_iff.mpr (by simp [bne])
    next elsewhere =>
      refine (List.filter_eq_self.mpr fun who inside => ?_).symm
      rw [coordinated.queues, waitersAt] at inside
      obtain ⟨call, member, rfl⟩ := List.mem_map.mp inside
      obtain ⟨parked, here⟩ := List.mem_filter.mp member
      rw [decide_eq_true_eq] at here
      simp only [decide_eq_true_eq]
      intro same
      exact elsewhere (waits call parked same ▸ here)
  · intro call member
    exact coordinated.idle call (mem_without.mp member).1
  · intro call member
    exact coordinated.nodes call (mem_without.mp member).1

/-- Parking again only changes what is known of the call. -/
theorem Coordinated.park (coordinated : limiters.Coordinated)
    {call : ParkedCall}
    (waits : ∃ other ∈ limiters.parked, other.owner = call.owner)
    (agree : ∀ other ∈ limiters.parked, other.owner = call.owner →
      other.node = call.node) :
    (limiters.park call).Coordinated := by
  have owners : (limiters.park call).parked.map ParkedCall.owner =
      limiters.parked.map ParkedCall.owner := map_key_rejoin waits
  have origin : ∀ other ∈ (limiters.park call).parked,
      ∃ before ∈ limiters.parked, before.owner = other.owner ∧
        before.node = other.node := by
    intro other member
    rcases of_mem_rejoin member with rfl | inside
    · obtain ⟨before, earlier, same⟩ := waits
      exact ⟨before, earlier, same, agree before earlier same⟩
    · exact ⟨other, inside.1, rfl, rfl⟩
  refine coordinated.requeue (fun level => ⟨_, rfl⟩) rfl rfl
    (owners ▸ coordinated.apart) ?_ ?_ ?_
  · intro level
    have same : (limiters.park call).waitersAt level =
        limiters.waitersAt level :=
      filter_map_rejoin waits fun other member same =>
        ⟨by rw [agree other member same], same⟩
    rw [same]
    exact coordinated.queues level
  · intro other member
    obtain ⟨before, earlier, owner, _⟩ := origin other member
    rw [← owner]
    exact coordinated.idle before earlier
  · intro other member
    obtain ⟨before, earlier, _, node⟩ := origin other member
    rw [← node]
    exact coordinated.nodes before earlier

/-- An idle owner may enter the queues and the wait set. -/
theorem Coordinated.join (coordinated : limiters.Coordinated)
    (call : ParkedCall)
    (fresh : ∀ other ∈ limiters.parked, other.owner ≠ call.owner)
    (idle : ¬ (limiters.ledger .global).holds call.owner)
    (known : call.node ∈ limiters.nodeIds) :
    ((limiters.enqueueAll call.owner call.node).park call).Coordinated := by
  have parked : ((limiters.enqueueAll call.owner call.node).park
      call).parked = limiters.parked ++ [call] := rejoin_absent fresh
  have ledgers (level : Level) : ((limiters.enqueueAll call.owner
      call.node).park call).ledger level =
        if level ∈ levelsOf call.node then
          (limiters.ledger level).enqueue call.owner
        else limiters.ledger level :=
    enqueueAll_ledger limiters call.owner call.node level
  refine coordinated.requeue (fun level => ?_) rfl rfl
    (nodup_rejoin coordinated.apart) ?_ ?_ ?_
  · rw [ledgers]
    split
    · exact ⟨_, rfl⟩
    · exact ⟨_, rfl⟩
  · intro level
    rw [ledgers, waitersAt, parked, List.filter_append, List.map_append]
    have before := coordinated.queues level
    rw [waitersAt] at before
    split
    next here => simp [Ledger.enqueue, before, here]
    next elsewhere => simp [before, elsewhere]
  · intro other member
    rcases of_mem_rejoin member with rfl | inside
    · exact idle
    · exact coordinated.idle other inside.1
  · intro other member
    rcases of_mem_rejoin member with rfl | inside
    · exact known
    · exact coordinated.nodes other inside.1

/-- Granting all levels to an idle owner keeps the invariant. -/
theorem Coordinated.grantAll (coordinated : limiters.Coordinated)
    {owner node : Text}
    (free : ∀ level ∈ levelsOf node, (limiters.ledger level).freeSlots ≠ [])
    (fresh : ∀ call ∈ limiters.parked, call.owner ≠ owner)
    (idle : ¬ (limiters.ledger .global).holds owner)
    (known : node ∈ limiters.nodeIds) :
    (limiters.grantAll owner node).2.Coordinated := by
  have noStrategy : ¬ (limiters.ledger .strategy).holds owner :=
    fun held => idle (coordinated.underGlobal owner held)
  have noNode : ∀ other, ¬ (limiters.ledger (.node other)).holds owner :=
    fun other held =>
      noStrategy (coordinated.underStrategy other owner held)
  have first := coordinated.grant .global
    (free _ (by simp [levelsOf])) fresh idle
  have second := first.grant .strategy
    (free .strategy (by simp [levelsOf])) fresh
    ⟨((limiters.ledger .global).grant_holds owner owner).mpr (.inr rfl),
      noStrategy⟩
  exact second.grant (.node node)
    (free (.node node) (by simp [levelsOf])) fresh
    ⟨known, ((limiters.ledger .strategy).grant_holds owner owner).mpr
      (.inr rfl), noNode⟩

/-- A turn of the loop grants only what all levels may grant. -/
theorem attempt_grants {owner node : Text} {deadline : Option Instant}
    {checking waiting : Reading}
    (granted : limiters.attempt owner node deadline checking waiting =
      .ok true) : limiters.mayGrantAll owner node := by
  simp only [attempt, bind_eq_ok] at granted
  obtain ⟨_, _, _, _, granted⟩ := granted
  split at granted
  · assumption
  · simp only [bind_eq_ok] at granted
    obtain ⟨_, _, impossible⟩ := granted
    cases impossible

/-- The loop keeps the invariant of the state in which its call waits. -/
theorem Coordinated.resume {owner node : Text} {deadline : Option Instant}
    (waits : (limiters.park
      ⟨owner, node, deadline.getD 0, false⟩).Coordinated)
    (checking waiting : Reading) :
    (limiters.resume owner node deadline checking
      waiting).2.Coordinated := by
  let call : ParkedCall := ⟨owner, node, deadline.getD 0, false⟩
  have inside : call ∈ (limiters.park call).parked :=
    mem_rejoin ParkedCall.owner call limiters.parked
  have agree : ∀ other ∈ (limiters.park call).parked,
      other.owner = owner → other.node = node := by
    intro other member same
    have one : other = call :=
      List.inj_on_of_nodup_map waits.apart member inside same
    rw [one]
  have left : (limiters.leave owner node).Coordinated := by
    rw [← leave_park limiters call]
    exact waits.leave agree
  simp only [ScheduledWorkLimiters.resume]
  split
  · exact left
  next granted =>
    have may := attempt_grants granted
    simp only [mayGrantAll, List.all_eq_true] at may
    show ((limiters.grantAll owner node).2.leave owner node).Coordinated
    rw [grantAll_leave]
    refine left.grantAll ?_ ?_ ?_ ?_
    · intro level member
      have grants := may level member
      simp only [Ledger.mayGrant, Bool.and_eq_true, Bool.not_eq_true',
        List.isEmpty_eq_false_iff] at grants
      rw [leave_ledger]
      split <;> exact grants.1
    · exact fun other member => (mem_without.mp member).2
    · have idle := waits.idle call inside
      rw [leave_ledger]
      split <;> exact idle
    · exact waits.nodes call inside
  · exact waits

/-! ## Operations -/

/-- The calls that change the coordinator, each one lock-held section. -/
inductive ScheduledOp where
  | acquire (owner node : Text) (deadline : Option Instant)
      (clock : AcquireClock)
  | wake (call : ParkedCall) (clock : AcquireClock)
  | acquireLevel (category owner : Text) (nodeId : Option Text)
  | release (owner node : Text)
  | releaseLevel (category owner : Text) (nodeId : Option Text)
  | registerSubordinate (owner : Text) (permit : CapacityPermit)
  | unregisterSubordinate (owner : Text) (permit : CapacityPermit)
  | close

/-- Only a parked call can run again. -/
def Enabled (limiters : ScheduledWorkLimiters) : ScheduledOp → Prop
  | .wake call _ => call ∈ limiters.parked
  | _ => True

/-- The coordinator after a section that raised nothing, or as it was. -/
def settled (limiters : ScheduledWorkLimiters) :
    Except CapacityError ScheduledWorkLimiters → ScheduledWorkLimiters
  | .ok next => next
  | .error _ => limiters

/-- The coordinator after one section. -/
def perform (limiters : ScheduledWorkLimiters) :
    ScheduledOp → ScheduledWorkLimiters
  | .acquire owner node deadline clock =>
      (limiters.acquire owner node deadline clock).2
  | .wake call clock => (limiters.wake call clock).2
  | .acquireLevel category owner nodeId =>
      limiters.settled
        ((limiters.acquireLevel category owner nodeId).map Prod.snd)
  | .release owner node => limiters.settled (limiters.release owner node)
  | .releaseLevel category owner nodeId =>
      limiters.settled (limiters.releaseLevel category owner nodeId)
  | .registerSubordinate owner permit =>
      limiters.settled (limiters.registerSubordinate owner permit)
  | .unregisterSubordinate owner permit =>
      limiters.settled (limiters.unregisterSubordinate owner permit)
  | .close => limiters.close

theorem Coordinated.notifyAll (coordinated : limiters.Coordinated) :
    limiters.notifyAll.Coordinated := by
  have owners : limiters.notifyAll.parked.map ParkedCall.owner =
      limiters.parked.map ParkedCall.owner := by
    simp [ScheduledWorkLimiters.notifyAll, Function.comp_def]
  refine
    { balanced := coordinated.balanced
      underGlobal := coordinated.underGlobal
      underStrategy := coordinated.underStrategy
      oneNode := coordinated.oneNode
      registered := coordinated.registered
      apart := owners ▸ coordinated.apart
      queues := ?_, idle := ?_, nodes := ?_
      own := coordinated.own
      covered := coordinated.covered }
  · intro level
    have same : limiters.notifyAll.waitersAt level =
        limiters.waitersAt level := by
      simp [waitersAt, ScheduledWorkLimiters.notifyAll, List.filter_map,
        Function.comp_def]
    rw [same]
    exact coordinated.queues level
  · intro call member
    obtain ⟨before, inside, rfl⟩ := List.mem_map.mp member
    exact coordinated.idle before inside
  · intro call member
    obtain ⟨before, inside, rfl⟩ := List.mem_map.mp member
    exact coordinated.nodes before inside

/-- Who is not pending is not parked. -/
theorem Coordinated.not_parked (coordinated : limiters.Coordinated)
    {owner : Text} (free : ¬ (limiters.ledger .global).hasWaiter owner) :
    ∀ call ∈ limiters.parked, call.owner ≠ owner := by
  rintro call member rfl
  apply free
  rw [Ledger.hasWaiter, decide_eq_true_eq, coordinated.queues, waitersAt]
  exact List.mem_map.mpr
    ⟨call, List.mem_filter.mpr ⟨member, by simp [levelsOf]⟩, rfl⟩

theorem Coordinated.acquire (coordinated : limiters.Coordinated)
    (owner node : Text) (deadline : Option Instant) (clock : AcquireClock) :
    (limiters.acquire owner node deadline clock).2.Coordinated := by
  simp only [ScheduledWorkLimiters.acquire]
  split
  · exact coordinated
  next admitted =>
    simp only [requireAdmission, requireNode, bind_eq_ok, require_eq_ok,
      decide_eq_true_eq, Bool.not_eq_true', isPendingOrHolding,
      Bool.or_eq_false_iff] at admitted
    obtain ⟨_, _, _, _, _, known, _, _, _, ⟨⟨⟨free, idle⟩, _⟩, _⟩, _⟩ :=
      admitted
    apply Coordinated.resume
    exact coordinated.join ⟨owner, node, deadline.getD 0, false⟩
      (coordinated.not_parked (by simp [free])) (by simp [idle]) known

theorem Coordinated.wake (coordinated : limiters.Coordinated)
    {call : ParkedCall} (member : call ∈ limiters.parked)
    (clock : AcquireClock) :
    (limiters.wake call clock).2.Coordinated := by
  apply Coordinated.resume
  refine coordinated.park ⟨call, member, rfl⟩ fun other inside same => ?_
  rw [List.inj_on_of_nodup_map coordinated.apart inside member same]

/-- The level of a category, at the named node for node levels. -/
theorem resolveLevel_eq_ok {category : Category} {nodeId : Option Text}
    {level : Level} (scheduled : category ∈ scheduledCategories)
    (resolved : resolveLevel category nodeId = .ok level) :
    (category = .global ∧ level = .global) ∨
      (category = .strategy ∧ level = .strategy) ∨
      ∃ node, category = .node ∧ level = .node node := by
  cases category with
  | connector => simp [scheduledCategories] at scheduled
  | cpuPool => simp [scheduledCategories] at scheduled
  | global =>
      cases nodeId <;> cases resolved
      exact .inl ⟨rfl, rfl⟩
  | strategy =>
      cases nodeId <;> cases resolved
      exact .inr (.inl ⟨rfl, rfl⟩)
  | node =>
      cases nodeId with
      | none => cases resolved
      | some node =>
          simp only [resolveLevel, bind_eq_ok] at resolved
          obtain ⟨_, _, same⟩ := resolved
          cases same
          exact .inr (.inr ⟨node, rfl, rfl⟩)

theorem mem_heldLevels {owner : Text} {category : Category} :
    category ∈ limiters.heldLevels owner ↔
      category ∈ scheduledCategories ∧
        limiters.holdsCategory owner category :=
  List.mem_filter

theorem not_anyNodeHolds (coordinated : limiters.Coordinated) {owner : Text}
    (none_ : ¬ limiters.anyNodeHolds owner) (node : Text) :
    ¬ (limiters.ledger (.node node)).holds owner := fun held =>
  none_ ((anyNodeHolds_iff limiters owner).mpr
    ⟨node, coordinated.registered node owner held, held⟩)

theorem Coordinated.acquireLevel (coordinated : limiters.Coordinated)
    {category owner : Text} {nodeId : Option Text}
    {granted : CapacityPermit × ScheduledWorkLimiters}
    (returned : limiters.acquireLevel category owner nodeId = .ok granted) :
    ∃ level, granted = limiters.grant level owner ∧
      (limiters.ledger level).freeSlots ≠ [] ∧
      (∀ call ∈ limiters.parked, call.owner ≠ owner) ∧
      limiters.Next owner level := by
  simp only [ScheduledWorkLimiters.acquireLevel, bind_eq_ok, require_eq_ok,
    List.contains_iff_mem, Bool.and_eq_true, decide_eq_true_eq,
    Bool.not_eq_true', Ledger.mayGrant, List.isEmpty_eq_false_iff,
    isPending, Bool.or_eq_false_iff] at returned
  obtain ⟨selected, _, _, scheduled, _, _, level, resolved, _, _, _, known,
    _, _, _, ⟨expected, free, _⟩, _, ⟨slots, _⟩, same⟩ := returned
  cases same
  have held (other : Category) :
      other ∈ scheduledCategories.takeWhile (· ≠ selected) ↔
        other ∈ scheduledCategories ∧ limiters.holdsCategory owner other := by
    rw [← expected, mem_heldLevels]
  refine ⟨level, rfl, slots, coordinated.not_parked (by simp [free]), ?_⟩
  rcases resolveLevel_eq_ok scheduled resolved with
    ⟨rfl, rfl⟩ | ⟨rfl, rfl⟩ | ⟨node, rfl, rfl⟩
  · have global_ := held .global
    simpa [scheduledCategories, holdsCategory, Next] using global_
  · have global_ := held .global
    have strategy := held .strategy
    simp [scheduledCategories, holdsCategory] at global_ strategy
    exact ⟨global_, by simp [strategy]⟩
  · have strategy := held .strategy
    have anyNode := held .node
    simp [scheduledCategories, holdsCategory] at strategy anyNode
    refine ⟨?_, strategy, not_anyNodeHolds coordinated (by simp [anyNode])⟩
    simpa [requireLevel, requireNode, require_eq_ok] using known

/-- What `release_level` gives back. -/
theorem Coordinated.released (coordinated : limiters.Coordinated)
    {category owner : Text} {nodeId : Option Text}
    {next : ScheduledWorkLimiters}
    (returned : limiters.releaseLevel category owner nodeId = .ok next) :
    ∃ level, next =
        (limiters.update level fun l => l.release owner).notifyAll ∧
      (limiters.ledger level).holds owner ∧ limiters.Last owner level ∧
      limiters.subordinates owner = [] := by
  simp only [ScheduledWorkLimiters.releaseLevel, bind_eq_ok, require_eq_ok,
    List.contains_iff_mem, List.all_eq_true, Bool.not_eq_true',
    requireNoSubordinates, List.isEmpty_iff] at returned
  obtain ⟨selected, _, _, scheduled, _, _, level, resolved, _, _, _, order,
    _, held, _, bare, same⟩ := returned
  cases same
  refine ⟨level, rfl, held, ?_, bare⟩
  have later (other : Category)
      (after : other ∈ (scheduledCategories.dropWhile (· ≠ selected)).tail)
      (scheduled : other ∈ scheduledCategories) :
      ¬ limiters.holdsCategory owner other := by
    intro holds
    have absent := order other after
    rw [Bool.eq_false_iff] at absent
    exact absent (List.contains_iff_mem.mpr
      (mem_heldLevels.mpr ⟨scheduled, holds⟩))
  rcases resolveLevel_eq_ok scheduled resolved with
    ⟨rfl, rfl⟩ | ⟨rfl, rfl⟩ | ⟨node, rfl, rfl⟩
  · exact later .strategy (by decide) (by decide)
  · exact not_anyNodeHolds coordinated (later .node (by decide) (by decide))
  · trivial

/-- What `release` gives back: three levels, in reverse. -/
theorem release_eq_ok {owner node : Text} {next : ScheduledWorkLimiters}
    (returned : limiters.release owner node = .ok next) :
    next = (((limiters.update (.node node) fun l =>
        l.release owner).update .strategy fun l =>
          l.release owner).update .global fun l =>
            l.release owner).notifyAll ∧
      (limiters.ledger .global).holds owner ∧
      (limiters.ledger .strategy).holds owner ∧
      (limiters.ledger (.node node)).holds owner ∧
      limiters.subordinates owner = [] := by
  simp only [ScheduledWorkLimiters.release, bind_eq_ok, require_eq_ok,
    requireNoSubordinates, List.isEmpty_iff, levelsOf, List.all_cons,
    List.all_nil, Bool.and_true, Bool.and_eq_true] at returned
  obtain ⟨_, _, _, _, _, _, _, _, _, ⟨global_, strategy, inNode⟩, _, bare,
    same⟩ := returned
  cases same
  exact ⟨rfl, global_, strategy, inNode, bare⟩

theorem Coordinated.release (coordinated : limiters.Coordinated)
    {owner node : Text} {next : ScheduledWorkLimiters}
    (returned : limiters.release owner node = .ok next) :
    next.Coordinated := by
  obtain ⟨rfl, global_, strategy, inNode, bare⟩ := release_eq_ok returned
  have released (ledger : Ledger) : ¬ (ledger.release owner).holds owner :=
    fun held => ((ledger.ungrant_holds owner owner).mp held).1 rfl
  have first := coordinated.releaseLevel (.node node) inNode
    trivial bare
  have noNode : ∀ other, ¬ ((limiters.update (.node node) fun l =>
      l.release owner).ledger (.node other)).holds owner := by
    intro other held
    rw [update_ledger] at held
    split at held
    · exact released _ held
    next apart =>
      exact apart (congrArg Level.node
        (coordinated.oneNode other node owner held inNode))
  have second := first.releaseLevel .strategy strategy noNode bare
  exact (second.releaseLevel .global global_ (released _)
    bare).notifyAll

/-- Only an owner of everything has registered permits. -/
theorem Coordinated.register (coordinated : limiters.Coordinated)
    {owner : Text} {permits : List CapacityPermit}
    (own : ∀ permit ∈ permits, permit.owner = owner)
    (holds : permits ≠ [] → limiters.holdsAll owner) :
    { limiters with
      subordinates :=
        Function.update limiters.subordinates owner permits }.Coordinated := by
  refine { coordinated with own := ?_, covered := ?_ }
  · intro who permit member
    replace member :
        permit ∈ Function.update limiters.subordinates owner permits who :=
      member
    by_cases same : who = owner
    · subst same
      rw [Function.update_self] at member
      exact own permit member
    · rw [Function.update_of_ne same] at member
      exact coordinated.own who permit member
  · intro who some_
    show limiters.holdsAll who
    replace some_ :
        Function.update limiters.subordinates owner permits who ≠ [] := some_
    by_cases same : who = owner
    · subst same
      rw [Function.update_self] at some_
      exact holds some_
    · rw [Function.update_of_ne same] at some_
      exact coordinated.covered who some_

theorem Coordinated.registerSubordinate (coordinated : limiters.Coordinated)
    {owner : Text} {permit : CapacityPermit} {next : ScheduledWorkLimiters}
    (returned : limiters.registerSubordinate owner permit = .ok next) :
    next.Coordinated := by
  simp only [ScheduledWorkLimiters.registerSubordinate, bind_eq_ok,
    require_eq_ok] at returned
  obtain ⟨_, _, _, _, _, mine, _, holds, same⟩ := returned
  cases same
  refine coordinated.register (fun other member => ?_) fun _ => holds
  split at member
  · exact coordinated.own owner other member
  · rcases List.mem_append.mp member with earlier | new
    · exact coordinated.own owner other earlier
    · rw [List.mem_singleton.mp new]
      exact of_decide_eq_true mine

theorem Coordinated.unregisterSubordinate
    (coordinated : limiters.Coordinated) {owner : Text}
    {permit : CapacityPermit} {next : ScheduledWorkLimiters}
    (returned : limiters.unregisterSubordinate owner permit = .ok next) :
    next.Coordinated := by
  simp only [ScheduledWorkLimiters.unregisterSubordinate, bind_eq_ok]
    at returned
  obtain ⟨_, _, _, _, same⟩ := returned
  cases same
  refine coordinated.register (fun other member =>
    coordinated.own owner other (List.mem_filter.mp member).1) fun some_ =>
      coordinated.covered owner fun empty => some_ ?_
  rw [empty]
  rfl

theorem Coordinated.close (coordinated : limiters.Coordinated) :
    limiters.close.Coordinated := by
  simp only [ScheduledWorkLimiters.close]
  split
  · exact coordinated
  · have closed : { limiters with closed := true }.Coordinated :=
      { coordinated with }
    exact closed.notifyAll

/-- Every section keeps the invariant. -/
theorem Coordinated.perform (coordinated : limiters.Coordinated)
    {op : ScheduledOp} (enabled : limiters.Enabled op) :
    (limiters.perform op).Coordinated := by
  have settles {result : Except CapacityError ScheduledWorkLimiters}
      (keeps : ∀ next, result = .ok next → next.Coordinated) :
      (limiters.settled result).Coordinated := by
    cases result with
    | ok next => exact keeps next rfl
    | error _ => exact coordinated
  cases op with
  | acquire owner node deadline clock =>
      exact coordinated.acquire owner node deadline clock
  | wake call clock => exact coordinated.wake enabled clock
  | acquireLevel category owner nodeId =>
      apply settles
      intro next mapped
      obtain ⟨granted, returned, rfl⟩ := map_eq_ok.mp mapped
      obtain ⟨level, rfl, free, fresh, order⟩ :=
        coordinated.acquireLevel returned
      exact coordinated.grant _ free fresh order
  | release owner node =>
      exact settles fun _ returned => coordinated.release returned
  | releaseLevel category owner nodeId =>
      apply settles
      intro next returned
      obtain ⟨level, rfl, held, last, bare⟩ := coordinated.released returned
      exact (coordinated.releaseLevel _ held last bare).notifyAll
  | registerSubordinate owner permit =>
      exact settles fun _ returned =>
        coordinated.registerSubordinate returned
  | unregisterSubordinate owner permit =>
      exact settles fun _ returned =>
        coordinated.unregisterSubordinate returned
  | close => exact coordinated.close

/-- A new coordinator satisfies the invariant. -/
theorem create_coordinated {settings : CapturedConcurrencySettings}
    {strategyId : Text} {nodeIds : List Text}
    (created : create settings strategyId nodeIds = .ok limiters) :
    limiters.Coordinated := by
  simp only [create, bind_eq_ok] at created
  obtain ⟨_, _, _, _, _, _, _, _, same⟩ := created
  cases same
  have unheld (level : Level) (owner : Text) :
      ¬ (newLedger settings level).holds owner := by
    cases level <;> simp [newLedger, Ledger.new, Ledger.holds]
  refine
    { balanced := ?_, underGlobal := ?_, underStrategy := ?_, oneNode := ?_,
      registered := ?_, apart := List.nodup_nil, queues := ?_, idle := ?_,
      nodes := ?_, own := ?_, covered := ?_ }
  · intro level
    cases level <;> exact Ledger.new_balanced _ _
  · exact fun owner held => absurd held (unheld _ owner)
  · exact fun node owner held => absurd held (unheld _ owner)
  · exact fun node other owner held => absurd held (unheld _ owner)
  · exact fun node owner held => absurd held (unheld _ owner)
  · intro level
    cases level <;> rfl
  · exact fun call member => absurd member List.not_mem_nil
  · exact fun call member => absurd member List.not_mem_nil
  · exact fun owner permit member => absurd member List.not_mem_nil
  · exact fun owner some_ => absurd rfl some_

/-! ## What a section can change -/

/-- Limits, nodes and holders stay; holders may be added. -/
structure Extends (before after : ScheduledWorkLimiters) : Prop where
  limit : ∀ level, (after.ledger level).limit = (before.ledger level).limit
  nodeIds : after.nodeIds = before.nodeIds
  holds : ∀ level owner, (before.ledger level).holds owner →
    (after.ledger level).holds owner

theorem Extends.of_ledger {before after : ScheduledWorkLimiters}
    (ledger : after.ledger = before.ledger)
    (nodeIds : after.nodeIds = before.nodeIds) : Extends before after :=
  ⟨fun _ => by rw [ledger], nodeIds, fun _ _ held => by rwa [ledger]⟩

theorem Extends.trans {first second third : ScheduledWorkLimiters}
    (one : Extends first second) (two : Extends second third) :
    Extends first third :=
  ⟨fun level => (two.limit level).trans (one.limit level),
    two.nodeIds.trans one.nodeIds,
    fun level owner held =>
      two.holds level owner (one.holds level owner held)⟩

theorem extends_grant (limiters : ScheduledWorkLimiters) (level : Level)
    (owner : Text) : Extends limiters (limiters.grant level owner).2 := by
  refine ⟨fun other => ?_, rfl, fun other who held => ?_⟩
  · simp only [ScheduledWorkLimiters.grant, update_ledger]
    split <;> rfl
  · exact (grant_holds limiters level other owner who).mpr (.inl held)

theorem extends_leave (limiters : ScheduledWorkLimiters)
    (owner node : Text) : Extends limiters (limiters.leave owner node) := by
  refine ⟨fun level => ?_, rfl, fun level who held => ?_⟩
  · rw [leave_ledger]
    split <;> rfl
  · rw [leave_ledger]
    split <;> exact held

theorem extends_resume (limiters : ScheduledWorkLimiters)
    (owner node : Text) (deadline : Option Instant)
    (checking waiting : Reading) :
    Extends limiters
      (limiters.resume owner node deadline checking waiting).2 := by
  simp only [ScheduledWorkLimiters.resume]
  split
  · exact extends_leave limiters owner node
  · exact ((extends_grant limiters _ owner).trans
      ((extends_grant _ _ owner).trans (extends_grant _ _ owner))).trans
        (extends_leave _ owner node)
  · exact .of_ledger rfl rfl

theorem extends_acquire (limiters : ScheduledWorkLimiters)
    (owner node : Text) (deadline : Option Instant) (clock : AcquireClock) :
    Extends limiters (limiters.acquire owner node deadline clock).2 := by
  simp only [ScheduledWorkLimiters.acquire]
  split
  · exact .of_ledger rfl rfl
  · have enqueues : Extends limiters (limiters.enqueueAll owner node) := by
      refine ⟨fun level => ?_, rfl, fun level who held => ?_⟩
      · rw [enqueueAll_ledger]
        split <;> rfl
      · rw [enqueueAll_ledger]
        split <;> exact held
    exact enqueues.trans (extends_resume _ _ _ _ _ _)

theorem update_release_limit (limiters : ScheduledWorkLimiters)
    (level other : Level) (owner : Text) :
    ((limiters.update level fun l => l.release owner).ledger other).limit =
      (limiters.ledger other).limit := by
  rw [update_ledger]
  split
  · exact Ledger.ungrant_limit _ owner
  · rfl

/-- Limits and nodes stay, and only owners without registered permits lose. -/
structure Changes (before after : ScheduledWorkLimiters) : Prop where
  limit : ∀ level, (after.ledger level).limit = (before.ledger level).limit
  nodeIds : after.nodeIds = before.nodeIds
  bare : ∀ level owner, (before.ledger level).holds owner →
    ¬ (after.ledger level).holds owner → before.subordinates owner = []

theorem Extends.changes {before after : ScheduledWorkLimiters}
    (extends_ : Extends before after) : Changes before after :=
  ⟨extends_.limit, extends_.nodeIds, fun level owner held gone =>
    absurd (extends_.holds level owner held) gone⟩

/-- One owner's release of some levels. -/
theorem changes_release {after : ScheduledWorkLimiters} {owner : Text}
    (bare : limiters.subordinates owner = [])
    (limit : ∀ level,
      (after.ledger level).limit = (limiters.ledger level).limit)
    (nodeIds : after.nodeIds = limiters.nodeIds)
    (others : ∀ level who, who ≠ owner →
      (limiters.ledger level).holds who → (after.ledger level).holds who) :
    Changes limiters after := by
  refine ⟨limit, nodeIds, fun level who held gone => ?_⟩
  by_cases same : who = owner
  · rw [same]
    exact bare
  · exact absurd (others level who same held) gone

/-- What every section may change. -/
theorem Coordinated.changes (coordinated : limiters.Coordinated)
    (op : ScheduledOp) : Changes limiters (limiters.perform op) := by
  have settles {result : Except CapacityError ScheduledWorkLimiters}
      (changes : ∀ next, result = .ok next → Changes limiters next) :
      Changes limiters (limiters.settled result) := by
    cases result with
    | ok next => exact changes next rfl
    | error _ => exact (Extends.of_ledger rfl rfl).changes
  have others (state : ScheduledWorkLimiters) (level other : Level)
      {owner who : Text} (apart : who ≠ owner)
      (held : (state.ledger other).holds who) :
      ((state.update level fun l => l.release owner).ledger
        other).holds who :=
    (release_holds state level other owner who).mpr
      ⟨held, fun taken => apart taken.2⟩
  cases op with
  | acquire owner node deadline clock =>
      exact (extends_acquire limiters owner node deadline clock).changes
  | wake call clock => exact (extends_resume limiters _ _ _ _ _).changes
  | acquireLevel category owner nodeId =>
      apply settles
      intro next mapped
      obtain ⟨granted, returned, rfl⟩ := map_eq_ok.mp mapped
      obtain ⟨level, rfl, _⟩ := coordinated.acquireLevel returned
      exact (extends_grant limiters level owner).changes
  | release owner node =>
      apply settles
      intro next returned
      obtain ⟨rfl, _, _, _, bare⟩ := release_eq_ok returned
      refine changes_release bare (fun level => ?_) rfl
        fun level who apart held => ?_
      · exact (update_release_limit _ .global level owner).trans
          ((update_release_limit _ .strategy level owner).trans
            (update_release_limit limiters (.node node) level owner))
      · exact others _ .global level apart
          (others _ .strategy level apart
            (others limiters (.node node) level apart held))
  | releaseLevel category owner nodeId =>
      apply settles
      intro next returned
      obtain ⟨level, rfl, _, _, bare⟩ := coordinated.released returned
      exact changes_release bare
        (fun other => update_release_limit limiters level other owner) rfl
        fun other who apart held => others limiters level other apart held
  | registerSubordinate owner permit =>
      apply settles
      intro next returned
      simp only [ScheduledWorkLimiters.registerSubordinate, bind_eq_ok]
        at returned
      obtain ⟨_, _, _, _, _, _, _, _, same⟩ := returned
      cases same
      refine Extends.changes ?_
      exact .of_ledger rfl rfl
  | unregisterSubordinate owner permit =>
      apply settles
      intro next returned
      simp only [ScheduledWorkLimiters.unregisterSubordinate, bind_eq_ok]
        at returned
      obtain ⟨_, _, _, _, same⟩ := returned
      cases same
      refine Extends.changes ?_
      exact .of_ledger rfl rfl
  | close =>
      simp only [ScheduledWorkLimiters.perform, ScheduledWorkLimiters.close]
      split
      · refine Extends.changes ?_
        exact .of_ledger rfl rfl
      · refine Extends.changes ?_
        exact .of_ledger rfl rfl

end ScheduledWorkLimiters

end ParityGrid.Application
