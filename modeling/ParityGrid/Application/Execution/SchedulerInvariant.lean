import ParityGrid.Application.Execution.ConcurrentScheduler
import ParityGrid.Foundation.Transition

/-!
# The scheduler invariant

Every accepted plan is coherent, and every operation of a scheduler preserves
`SchedulerInvariant`: fences and waits are held exactly by the work that needs
them, and work leaves `BLOCKED` exactly when all work of all predecessor nodes
succeeded.  The release rule looks one step ahead in the graph; that is enough
because work in flight has already left `BLOCKED` itself.
-/

namespace ParityGrid.Application

open ParityGrid.Foundation

/-! ## Accepted plans -/

namespace SchedulerPlan

/-- What `__init__` establishes about a plan. -/
structure Coherent (plan : SchedulerPlan) : Prop where
  run : isPlainText maxFrontierIdentityLength plan.runId
  fingerprint : isFrontierFingerprint plan.planFingerprint
  plain : ∀ node ∈ plan.nodeOrder, isPlainText maxFrontierIdentityLength node
  nonempty : plan.nodeOrder ≠ []
  nodes : plan.nodeOrder.Nodup
  ends : ∀ edge ∈ plan.edges,
    isPlainText maxFrontierIdentityLength edge.1 ∧
      isPlainText maxFrontierIdentityLength edge.2
  edges : plan.edges.Nodup
  ordered : plan.edges = sortedBy toLex plan.edges
  spans : Spans plan.nodeOrder plan.edges
  proper : ∀ edge ∈ plan.edges, edge.1 ≠ edge.2
  acyclic : Acyclic plan.edges
  keys : plan.identitiesByNode.map Prod.fst = plan.nodeOrder
  placed : ∀ entry ∈ plan.identitiesByNode, ∀ identity ∈ entry.2,
    identity.nodeId = entry.1 ∧ identity.runId = plan.runId
  covers : ∀ entry ∈ plan.identitiesByNode, entry.2 ≠ []
  apart : ∀ entry ∈ plan.identitiesByNode, entry.2.Nodup
  bounded : plan.identities.length ≤ maxFrontierWorkItems

/-- The partitions of every node are distinct, and there is at least one. -/
theorem partitions_eq_ok {nodeOrder : List Text}
    {partitionsByNode ordered : List (Text × List Text)}
    (accepted : partitions nodeOrder partitionsByNode = .ok ordered) :
    ordered.map Prod.fst = nodeOrder ∧
      ∀ entry ∈ ordered, entry.2 ≠ [] ∧ entry.2.Nodup := by
  have each : ∀ node ∈ nodeOrder, ∀ entry : Text × List Text,
      (do
        let keys := (partitionsByNode.lookup node).getD []
        require (keys ≠ []) (.invalidState
          "scheduler node partitions must not be empty")
        keys.forM fun key => requireIdentityText key "scheduler partition key"
        require (decide (sorted keys).Nodup) (.invalidState
          "scheduler node partitions must be unique")
        return (node, sorted keys)) = Except.ok entry →
      entry.1 = node ∧ entry.2 ≠ [] ∧ entry.2.Nodup := by
    intro node _ entry returned
    simp only [check_bind_eq_ok, require_eq_ok, decide_eq_true_eq]
      at returned
    obtain ⟨nonempty, _, distinct, same⟩ := returned
    cases same
    refine ⟨rfl, ?_, distinct⟩
    intro empty
    apply nonempty
    have perm := sorted_perm ((partitionsByNode.lookup node).getD [])
    rw [show sorted ((partitionsByNode.lookup node).getD []) = [] from empty]
      at perm
    exact perm.nil_eq.symm
  constructor
  · rw [mapM_keeps (fun node known entry returned =>
      (each node known entry returned).1) accepted, List.map_id']
  · intro entry member
    obtain ⟨node, known, returned⟩ := mapM_origin accepted member
    exact (each node known entry returned).2

/-- The identities of one node, one for each of its partitions. -/
theorem identities_eq_ok {runId : Text} {entry : Text × List Text}
    {identities : List WorkIdentity}
    (accepted : entry.2.mapM (WorkIdentity.create runId entry.1) =
      .ok identities) :
    identities.map WorkIdentity.partitionKey = entry.2 ∧
      ∀ identity ∈ identities,
        identity.nodeId = entry.1 ∧ identity.runId = runId := by
  constructor
  · rw [mapM_keeps (fun key _ identity created =>
      (WorkIdentity.create_eq_ok.mp created).2.2) accepted, List.map_id']
  · intro identity member
    obtain ⟨key, _, created⟩ := mapM_origin accepted member
    obtain ⟨run, node, _⟩ := WorkIdentity.create_eq_ok.mp created
    exact ⟨node, run⟩

theorem create_coherent {runId planFingerprint : Text} {nodeOrder : List Text}
    {edges : List (Text × Text)} {partitionsByNode : List (Text × List Text)}
    {plan : SchedulerPlan}
    (created : create runId planFingerprint nodeOrder edges
      partitionsByNode = .ok plan) :
    plan.Coherent := by
  simp only [create, check_bind_eq_ok, require_eq_ok, requireIdentityText,
    requirePlainText_eq_ok, forM_eq_ok, decide_eq_true_eq, ne_eq,
    Bool.and_eq_true, Bool.not_eq_true', decide_not, decide_eq_false_iff_not]
    at created
  obtain ⟨run, fingerprint, plain, nonempty, nodes, ends, placed, distinct,
    cycle, _, created⟩ := created
  obtain ⟨ordered, partitioned, created⟩ := bind_eq_ok.mp created
  obtain ⟨bounded, created⟩ := check_bind_eq_ok.mp created
  obtain ⟨identitiesByNode, identified, same⟩ := bind_eq_ok.mp created
  cases same
  rw [require_eq_ok, decide_eq_true_eq] at bounded
  obtain ⟨orderedKeys, orderedEach⟩ := partitions_eq_ok partitioned
  have spansArguments : Spans nodeOrder edges :=
    fun edge member => (placed edge member).1
  have each : ∀ entry ∈ ordered, ∀ result : Text × List WorkIdentity,
      (do
        let identities ← entry.2.mapM (WorkIdentity.create runId entry.1)
        return (entry.1, identities)) = Except.ok result →
      result.1 = entry.1 ∧
        result.2.map WorkIdentity.partitionKey = entry.2 ∧
          ∀ identity ∈ result.2,
            identity.nodeId = result.1 ∧ identity.runId = runId := by
    intro entry _ result returned
    obtain ⟨identities, accepted, same⟩ := bind_eq_ok.mp returned
    cases same
    exact ⟨rfl, identities_eq_ok accepted⟩
  have lengths : identitiesByNode.map (fun entry => entry.2.length) =
      ordered.map fun entry => entry.2.length := by
    apply mapM_keeps ?_ identified
    intro entry member result returned
    rw [← (each entry member result returned).2.1, List.length_map]
  have origin : ∀ result ∈ identitiesByNode, ∃ entry ∈ ordered,
      result.1 = entry.1 ∧
        result.2.map WorkIdentity.partitionKey = entry.2 ∧
          ∀ identity ∈ result.2,
            identity.nodeId = result.1 ∧ identity.runId = runId := by
    intro result member
    obtain ⟨entry, known, returned⟩ := mapM_origin identified member
    exact ⟨entry, known, each entry known result returned⟩
  constructor
  case run => exact run
  case fingerprint => exact fingerprint
  case plain => exact plain
  case nonempty => exact nonempty
  case nodes => exact nodes
  case ends =>
    intro edge member
    exact ends edge (mem_sortedBy.mp member)
  case edges =>
    exact (sortedBy_perm _ _).nodup_iff.mpr distinct
  case ordered => exact (sortedBy_idem _ _).symm
  case spans =>
    intro edge member
    exact spansArguments edge (mem_sortedBy.mp member)
  case proper =>
    intro edge member
    exact (placed edge (mem_sortedBy.mp member)).2
  case acyclic =>
    have acyclic := (containsCycle_eq_false nodes spansArguments).mp cycle
    simpa only [Acyclic, mem_sortedBy] using acyclic
  case keys =>
    rw [← orderedKeys]
    exact mapM_keeps (fun entry member result returned =>
      (each entry member result returned).1) identified
  case placed =>
    intro result member
    obtain ⟨_, _, _, _, placed⟩ := origin result member
    exact placed
  case covers =>
    intro result member empty
    obtain ⟨entry, known, _, keys, _⟩ := origin result member
    rw [empty] at keys
    exact (orderedEach entry known).1 keys.symm
  case apart =>
    intro result member
    obtain ⟨entry, known, _, keys, _⟩ := origin result member
    have distinct := (orderedEach entry known).2
    rw [← keys] at distinct
    exact List.Nodup.of_map _ distinct
  case bounded =>
    simpa only [SchedulerPlan.identities, List.length_flatMap, lengths]
      using bounded

/-- What an accepted plan takes from the arguments. -/
theorem create_arguments {runId planFingerprint : Text} {nodeOrder : List Text}
    {edges : List (Text × Text)} {partitionsByNode : List (Text × List Text)}
    {plan : SchedulerPlan}
    (created : create runId planFingerprint nodeOrder edges
      partitionsByNode = .ok plan) :
    plan.runId = runId ∧ plan.planFingerprint = planFingerprint ∧
      plan.nodeOrder = nodeOrder ∧ plan.edges = sortedBy toLex edges ∧
      plan.identities.map WorkIdentity.key = nodeOrder.flatMap fun node =>
        (sorted ((partitionsByNode.lookup node).getD [])).map fun partition =>
          (node, partition) := by
  simp only [create, check_bind_eq_ok] at created
  obtain ⟨_, _, _, _, _, _, _, _, _, _, created⟩ := created
  obtain ⟨ordered, partitioned, created⟩ := bind_eq_ok.mp created
  obtain ⟨_, created⟩ := check_bind_eq_ok.mp created
  obtain ⟨identitiesByNode, identified, same⟩ := bind_eq_ok.mp created
  cases same
  have entries : ordered = nodeOrder.map fun node =>
      (node, sorted ((partitionsByNode.lookup node).getD [])) := by
    rw [← List.map_id ordered]
    refine mapM_keeps (fun node _ entry returned => ?_) partitioned
    simp only [check_bind_eq_ok] at returned
    obtain ⟨_, _, _, same⟩ := returned
    cases same
    rfl
  have keys : (identitiesByNode.map fun entry =>
      entry.2.map WorkIdentity.key) = ordered.map fun entry =>
        entry.2.map fun partition => (entry.1, partition) := by
    refine mapM_keeps (fun entry _ result returned => ?_) identified
    obtain ⟨identities, accepted, same⟩ := bind_eq_ok.mp returned
    cases same
    obtain ⟨partitions, placed⟩ := identities_eq_ok accepted
    rw [← partitions, List.map_map]
    apply List.map_congr_left
    intro identity member
    rw [WorkIdentity.key, (placed identity member).1]
    rfl
  refine ⟨rfl, rfl, rfl, rfl, ?_⟩
  rw [identities, List.map_flatMap, List.flatMap, keys, entries, List.map_map]
  rfl

namespace Coherent

variable {plan : SchedulerPlan}

theorem distinct (coherent : plan.Coherent) : plan.identities.Nodup := by
  rw [identities, List.nodup_flatMap]
  refine ⟨coherent.apart, ?_⟩
  have keys : (plan.identitiesByNode.map Prod.fst).Nodup := by
    rw [coherent.keys]
    exact coherent.nodes
  rw [List.Nodup, List.pairwise_map] at keys
  refine keys.imp_of_mem ?_
  intro left right leftMember rightMember different
  rw [Function.onFun, List.disjoint_left]
  intro identity inLeft inRight
  exact different ((coherent.placed left leftMember identity inLeft).1.symm.trans
    (coherent.placed right rightMember identity inRight).1)

theorem mem_identitiesOf (coherent : plan.Coherent) {identity : WorkIdentity}
    {node : Text} :
    identity ∈ plan.identitiesOf node ↔
      identity ∈ plan.identities ∧ identity.nodeId = node := by
  have keys : (plan.identitiesByNode.map Prod.fst).Nodup := by
    rw [coherent.keys]
    exact coherent.nodes
  rw [identitiesOf, identities, List.mem_flatMap]
  constructor
  · intro member
    cases found : plan.identitiesByNode.lookup node with
    | none => simp [found] at member
    | some identities =>
        rw [found, Option.getD_some] at member
        have inside := (lookup_eq_some_iff_mem keys).mp found
        exact ⟨⟨_, inside, member⟩, (coherent.placed _ inside _ member).1⟩
  · rintro ⟨⟨entry, inside, member⟩, rfl⟩
    rw [(coherent.placed _ inside _ member).1,
      (lookup_eq_some_iff_mem keys).mpr inside]
    exact member

theorem known_node (coherent : plan.Coherent) {identity : WorkIdentity}
    (known : identity ∈ plan.identities) :
    identity.nodeId ∈ plan.nodeOrder ∧ identity.runId = plan.runId := by
  obtain ⟨entry, inside, member⟩ := List.mem_flatMap.mp known
  obtain ⟨node, run⟩ := coherent.placed entry inside identity member
  refine ⟨?_, run⟩
  rw [node, ← coherent.keys]
  exact List.mem_map.mpr ⟨entry, inside, rfl⟩

theorem node_work (coherent : plan.Coherent) {node : Text}
    (known : node ∈ plan.nodeOrder) :
    ∃ identity ∈ plan.identities, identity.nodeId = node := by
  rw [← coherent.keys] at known
  obtain ⟨entry, inside, rfl⟩ := List.mem_map.mp known
  obtain ⟨identity, member⟩ :=
    List.exists_mem_of_ne_nil _ (coherent.covers entry inside)
  exact ⟨identity, List.mem_flatMap.mpr ⟨entry, inside, member⟩,
    (coherent.placed entry inside identity member).1⟩

theorem node_bounded (coherent : plan.Coherent) (node : Text) :
    (plan.identitiesOf node).length ≤ maxFrontierWorkItems := by
  cases found : plan.identitiesByNode.lookup node with
  | none => simp [identitiesOf, found]
  | some identities =>
      have keys : (plan.identitiesByNode.map Prod.fst).Nodup := by
        rw [coherent.keys]
        exact coherent.nodes
      have inside := (lookup_eq_some_iff_mem keys).mp found
      have bound := coherent.bounded
      have sub : identities.Sublist plan.identities := by
        rw [SchedulerPlan.identities, List.flatMap]
        exact List.sublist_flatten_of_mem (List.mem_map.mpr ⟨_, inside, rfl⟩)
      simpa [identitiesOf, found] using sub.length_le.trans bound

end Coherent

@[simp]
theorem mem_predecessors {plan : SchedulerPlan} {source node : Text} :
    source ∈ plan.predecessors node ↔ (source, node) ∈ plan.edges := by
  rw [predecessors, mem_sorted, mem_predecessorsOf]

theorem mem_successors {plan : SchedulerPlan} {node successor : Text} :
    successor ∈ plan.successors node ↔
      successor ∈ plan.nodeOrder ∧ (node, successor) ∈ plan.edges := by
  simp [successors]

@[simp]
theorem mem_ordered {plan : SchedulerPlan} {identity : WorkIdentity} :
    identity ∈ plan.ordered ↔ identity ∈ plan.identities :=
  mem_sortedBy

end SchedulerPlan

/-! ## The invariant -/

namespace ConcurrentScheduler

/-- All work of a node succeeded. -/
def AllSucceeded (scheduler : ConcurrentScheduler) (node : Text) : Prop :=
  ∀ identity ∈ scheduler.plan.identities, identity.nodeId = node →
    scheduler.states identity = some .succeeded

/-- All work of all predecessors of a node succeeded. -/
def Permits (scheduler : ConcurrentScheduler) (node : Text) : Prop :=
  ∀ source, (source, node) ∈ scheduler.plan.edges →
    scheduler.AllSucceeded source

/-- The control state is durable, and explained when recovery is required. -/
def ControlHolds (scheduler : ConcurrentScheduler) : Prop :=
  scheduler.controlState.isDurable ∧
    (scheduler.controlState = .recoveryRequired ↔
      scheduler.recoveryReason ≠ none) ∧
    ∀ reason ∈ scheduler.recoveryReason,
      isPlainText maxFrontierReasonLength reason

/-- Exactly the work of a coherent plan has a state. -/
structure Tracked (scheduler : ConcurrentScheduler) : Prop where
  plan : scheduler.plan.Coherent
  known : ∀ identity, (scheduler.states identity).isSome ↔
    identity ∈ scheduler.plan.identities

/-- Fences are held by the work in flight, waits by the work to be retried. -/
structure Holdings (scheduler : ConcurrentScheduler) : Prop
    extends Tracked scheduler where
  flight : ∀ identity, (scheduler.fences identity).isSome ↔
    ∃ state, scheduler.states identity = some state ∧ state.isInFlight
  fences : ∀ identity fence, scheduler.fences identity = some fence →
    1 ≤ fence ∧ fence ≤ maxFrontierLeaseFence
  waits : ∀ identity, (scheduler.retryWaits identity).isSome ↔
    scheduler.states identity = some .retryWait
  owned : ∀ identity wait, scheduler.retryWaits identity = some wait →
    wait.identity = identity
  control : scheduler.ControlHolds

/-- What every operation preserves. -/
structure SchedulerInvariant (scheduler : ConcurrentScheduler) : Prop
    extends Holdings scheduler where
  barrier : ∀ identity ∈ scheduler.plan.identities,
    scheduler.states identity = some .blocked ↔
      ¬ scheduler.Permits identity.nodeId

/-- Only whether work succeeded matters to a barrier. -/
theorem Permits.congr {left right : ConcurrentScheduler}
    (plan : left.plan = right.plan)
    (same : ∀ identity, left.states identity = some .succeeded ↔
      right.states identity = some .succeeded) (node : Text) :
    left.Permits node ↔ right.Permits node := by
  simp only [Permits, AllSucceeded, plan, same]

namespace Tracked

variable {scheduler : ConcurrentScheduler}

/-- The counters of every node of the plan are accepted. -/
theorem nodeAggregate_eq_ok (holds : Tracked scheduler)
    {node : Text} (known : node ∈ scheduler.plan.nodeOrder) :
    scheduler.nodeAggregate node = .ok (FrontierNodeAggregate.count node
      ((scheduler.plan.identitiesOf node).filterMap scheduler.states)) := by
  apply Application.nodeAggregate_eq_ok (holds.plan.plain node known)
  exact (List.length_filterMap_le _ _).trans (holds.plan.node_bounded node)

theorem aggregate_permits (holds : Tracked scheduler)
    {node : Text} (known : node ∈ scheduler.plan.nodeOrder) :
    (FrontierNodeAggregate.count node
      ((scheduler.plan.identitiesOf node).filterMap
        scheduler.states)).permitsContinuation ↔
      scheduler.AllSucceeded node := by
  rw [permitsContinuation_count]
  constructor
  · rintro ⟨_, all⟩ identity inPlan here
    obtain ⟨state, found⟩ :=
      Option.isSome_iff_exists.mp ((holds.known identity).mpr inPlan)
    have member := holds.plan.mem_identitiesOf.mpr ⟨inPlan, here⟩
    rw [found, all state (List.mem_filterMap.mpr ⟨identity, member, found⟩)]
  · intro all
    constructor
    · obtain ⟨identity, inPlan, here⟩ := holds.plan.node_work known
      apply List.ne_nil_of_mem
      exact List.mem_filterMap.mpr ⟨identity,
        holds.plan.mem_identitiesOf.mpr ⟨inPlan, here⟩,
        all identity inPlan here⟩
    · intro state member
      obtain ⟨identity, inNode, found⟩ := List.mem_filterMap.mp member
      obtain ⟨inPlan, here⟩ := holds.plan.mem_identitiesOf.mp inNode
      rw [all identity inPlan here] at found
      exact (Option.some.inj found).symm

end Tracked

/-! ## Releasing successors -/

/-- Blocked work of some nodes is released where its barrier is open; nothing
else changes. -/
structure ReleasedFrom (before : ConcurrentScheduler) (nodes : List Text)
    (after : ConcurrentScheduler) : Prop where
  frame : after = { before with states := after.states }
  released : ∀ identity, before.states identity = some .blocked →
    identity.nodeId ∈ nodes → before.Permits identity.nodeId →
      after.states identity = some .ready
  kept : ∀ identity, ¬ (before.states identity = some .blocked ∧
    identity.nodeId ∈ nodes ∧ before.Permits identity.nodeId) →
      after.states identity = before.states identity

namespace ReleasedFrom

variable {before middle after : ConcurrentScheduler} {nodes : List Text}

theorem plan (moved : ReleasedFrom before nodes after) :
    after.plan = before.plan := by
  rw [moved.frame]

/-- Releasing moves work from `BLOCKED` to `READY` and nothing else. -/
theorem states_iff (moved : ReleasedFrom before nodes after)
    {state : FrontierWorkState} (other : state ∉ [.blocked, .ready])
    (identity : WorkIdentity) :
    after.states identity = some state ↔
      before.states identity = some state := by
  by_cases opens : before.states identity = some .blocked ∧
      identity.nodeId ∈ nodes ∧ before.Permits identity.nodeId
  · rw [moved.released identity opens.1 opens.2.1 opens.2.2, opens.1,
      Option.some.injEq, Option.some.injEq]
    constructor
    · intro same
      exact absurd (by simp [← same]) other
    · intro same
      exact absurd (by simp [← same]) other
  · rw [moved.kept identity opens]

theorem succeeded (moved : ReleasedFrom before nodes after)
    (identity : WorkIdentity) :
    after.states identity = some .succeeded ↔
      before.states identity = some .succeeded :=
  moved.states_iff (by simp) identity

theorem isSome (moved : ReleasedFrom before nodes after)
    (identity : WorkIdentity) :
    (after.states identity).isSome ↔ (before.states identity).isSome := by
  by_cases opens : before.states identity = some .blocked ∧
      identity.nodeId ∈ nodes ∧ before.Permits identity.nodeId
  · rw [moved.released identity opens.1 opens.2.1 opens.2.2, opens.1]
    simp
  · rw [moved.kept identity opens]

theorem permits (moved : ReleasedFrom before nodes after) (node : Text) :
    after.Permits node ↔ before.Permits node :=
  Permits.congr moved.plan moved.succeeded node

theorem tracked (moved : ReleasedFrom before nodes after)
    (holds : Tracked before) : Tracked after where
  plan := by
    rw [moved.plan]
    exact holds.plan
  known identity := by
    rw [moved.isSome, moved.plan]
    exact holds.known identity

/-- What fences and waits require of the states is not about blocked work. -/
theorem holdings (moved : ReleasedFrom before nodes after)
    (holds : Holdings before) : Holdings after where
  toTracked := moved.tracked holds.toTracked
  flight identity := by
    have fences : after.fences = before.fences := by rw [moved.frame]
    rw [fences, holds.flight]
    have grounded : ∀ state : FrontierWorkState, state.isInFlight →
        state ∉ [FrontierWorkState.blocked, .ready] := by
      intro state inFlight
      cases state <;> simp_all [FrontierWorkState.isInFlight]
    constructor
    · rintro ⟨state, found, inFlight⟩
      exact ⟨state, (moved.states_iff (grounded state inFlight) _).mpr found,
        inFlight⟩
    · rintro ⟨state, found, inFlight⟩
      exact ⟨state, (moved.states_iff (grounded state inFlight) _).mp found,
        inFlight⟩
  fences identity fence found := by
    rw [moved.frame] at found
    exact holds.fences identity fence found
  waits identity := by
    have waits : after.retryWaits = before.retryWaits := by rw [moved.frame]
    rw [waits, holds.waits, moved.states_iff (by simp)]
  owned identity wait found := by
    rw [moved.frame] at found
    exact holds.owned identity wait found
  control := by
    have control : after.ControlHolds = before.ControlHolds := by
      rw [moved.frame]
      rfl
    rw [control]
    exact holds.control

theorem trans {node : Text} {rest : List Text}
    (first : ReleasedFrom before [node] middle)
    (later : ReleasedFrom middle rest after) :
    ReleasedFrom before (node :: rest) after where
  frame := by
    rw [later.frame, first.frame]
  released identity blocked inNodes permitted := by
    by_cases now : identity.nodeId = node
    · have ready := first.released identity blocked (by simp [now]) permitted
      rw [later.kept identity (by simp [ready]), ready]
    · have still := first.kept identity (by simp [now])
      apply later.released identity (still.trans blocked)
      · exact (List.mem_cons.mp inNodes).resolve_left now
      · exact (first.permits _).mpr permitted
  kept identity closed := by
    have stepped : middle.states identity = before.states identity := by
      apply first.kept
      rintro ⟨blocked, inNode, permitted⟩
      exact closed ⟨blocked, List.mem_cons.mpr
        (.inl (List.mem_singleton.mp inNode)), permitted⟩
    rw [later.kept identity, stepped]
    rintro ⟨blocked, inRest, permitted⟩
    exact closed ⟨stepped ▸ blocked, List.mem_cons_of_mem _ inRest,
      (first.permits _).mp permitted⟩

end ReleasedFrom

/-- One turn of the release loop does not raise. -/
theorem Tracked.releaseSuccessor {scheduler : ConcurrentScheduler}
    (holds : Tracked scheduler) (successor : Text) :
    ∃ released, scheduler.releaseSuccessor successor = .ok released ∧
      ReleasedFrom scheduler [successor] released := by
  classical
  have permitted : ((scheduler.plan.predecessors successor).allM
      fun predecessor => do
        let aggregate ← scheduler.nodeAggregate predecessor
        return aggregate.permitsContinuation) =
      .ok (decide (scheduler.Permits successor)) := by
    rw [allM_eq_ok (q := fun source => decide (scheduler.AllSucceeded source))]
    · congr 1
      rw [Bool.eq_iff_iff, List.all_eq_true, decide_eq_true_eq]
      simp [Permits]
    · intro source member
      have known :=
        (holds.plan.spans _ (SchedulerPlan.mem_predecessors.mp member)).1
      rw [holds.nodeAggregate_eq_ok known, ok_bind]
      congr 1
      rw [Bool.eq_iff_iff, holds.aggregate_permits known, decide_eq_true_eq]
  unfold ConcurrentScheduler.releaseSuccessor
  rw [permitted, ok_bind]
  by_cases opens : scheduler.Permits successor
  · rw [decide_eq_true opens, if_pos rfl]
    refine ⟨_, rfl, rfl, ?_, ?_⟩
    · intro identity blocked inNode _
      have inPlan := (holds.known identity).mp (by simp [blocked])
      have member := holds.plan.mem_identitiesOf.mpr
        ⟨inPlan, List.mem_singleton.mp inNode⟩
      simp [member, blocked]
    · intro identity closed
      apply if_neg
      rintro ⟨member, blocked⟩
      have here := (holds.plan.mem_identitiesOf.mp member).2
      exact closed ⟨blocked, by simp [here], by rw [here]; exact opens⟩
  · rw [decide_eq_false opens, if_neg (by simp)]
    refine ⟨scheduler, rfl, rfl, ?_, fun _ _ => rfl⟩
    intro identity _ inNode permitted
    rw [List.mem_singleton.mp inNode] at permitted
    exact absurd permitted opens

/-- The release loop does not raise, whatever the order of its turns. -/
theorem Tracked.releaseEach {scheduler : ConcurrentScheduler}
    (holds : Tracked scheduler) (nodes : List Text) :
    ∃ released, scheduler.releaseEach nodes = (.ok (), released) ∧
      ReleasedFrom scheduler nodes released := by
  induction nodes generalizing scheduler with
  | nil =>
      exact ⟨scheduler, rfl, rfl, by simp, fun _ _ => rfl⟩
  | cons node rest ih =>
      obtain ⟨middle, turned, first⟩ := holds.releaseSuccessor node
      obtain ⟨after, looped, later⟩ := ih (first.tracked holds)
      refine ⟨after, ?_, first.trans later⟩
      simp only [ConcurrentScheduler.releaseEach, turned, looped]

/-! ## The frontier of a scheduler -/

namespace Holdings

variable {scheduler : ConcurrentScheduler}

theorem identities_fields (holds : Holdings scheduler) :
    scheduler.fields.identities = scheduler.plan.ordered := by
  rw [FrontierFields.identities, fields, keys_itemsOf, List.filter_eq_self]
  intro identity member
  exact (holds.known identity).mpr (SchedulerPlan.mem_ordered.mp member)

theorem fenced_fields (scheduler : ConcurrentScheduler) :
    scheduler.fields.fenced = scheduler.plan.ordered.filter fun identity =>
      (scheduler.fences identity).isSome :=
  keys_itemsOf _ _

theorem waiting_fields (holds : Holdings scheduler) :
    scheduler.fields.waiting = scheduler.plan.ordered.filter fun identity =>
      (scheduler.retryWaits identity).isSome := by
  rw [FrontierFields.waiting, fields]
  induction scheduler.plan.ordered with
  | nil => rfl
  | cons identity rest ih =>
      cases found : scheduler.retryWaits identity with
      | none => simpa [found] using ih
      | some wait => simpa [found, holds.owned identity wait found] using ih

theorem mem_fenced (holds : Holdings scheduler)
    {identity : WorkIdentity} :
    identity ∈ scheduler.fields.fenced ↔
      (scheduler.fences identity).isSome := by
  rw [fenced_fields, List.mem_filter, SchedulerPlan.mem_ordered]
  constructor
  · exact And.right
  · intro present
    obtain ⟨state, found, _⟩ := (holds.flight identity).mp present
    exact ⟨(holds.known identity).mp (by simp [found]), present⟩

theorem mem_waiting (holds : Holdings scheduler)
    {identity : WorkIdentity} :
    identity ∈ scheduler.fields.waiting ↔
      scheduler.states identity = some .retryWait := by
  rw [holds.waiting_fields, List.mem_filter, SchedulerPlan.mem_ordered,
    holds.waits]
  constructor
  · exact And.right
  · intro waits
    exact ⟨(holds.known identity).mp (by simp [waits]), waits⟩

theorem mem_workStates (holds : Holdings scheduler)
    {identity : WorkIdentity} {state : FrontierWorkState} :
    (identity, state) ∈ scheduler.fields.workStates ↔
      scheduler.states identity = some state := by
  rw [fields, mem_itemsOf, SchedulerPlan.mem_ordered]
  constructor
  · exact And.right
  · intro found
    exact ⟨(holds.known identity).mp (by simp [found]), found⟩

theorem workSucceeded (holds : Holdings scheduler) {node : Text}
    (known : node ∈ scheduler.plan.nodeOrder) :
    WorkSucceeded scheduler.fields.workStates node ↔
      scheduler.AllSucceeded node := by
  unfold WorkSucceeded
  constructor
  · rintro ⟨_, all⟩ identity inPlan here
    obtain ⟨state, found⟩ :=
      Option.isSome_iff_exists.mp ((holds.known identity).mpr inPlan)
    rw [found, all state (mem_nodeStates.mpr
      ⟨identity, holds.mem_workStates.mpr found, here⟩)]
  · intro all
    constructor
    · obtain ⟨identity, inPlan, here⟩ := holds.plan.node_work known
      apply List.ne_nil_of_mem
      exact mem_nodeStates.mpr ⟨identity,
        holds.mem_workStates.mpr (all identity inPlan here), here⟩
    · intro state member
      obtain ⟨identity, found, here⟩ := mem_nodeStates.mp member
      have found := holds.mem_workStates.mp found
      rw [all identity ((holds.known identity).mp (by simp [found])) here]
        at found
      exact (Option.some.inj found).symm

theorem ordered_filter (plan : SchedulerPlan) (p : WorkIdentity → Bool) :
    plan.ordered.filter p =
      sortedBy WorkIdentity.sortKey (plan.ordered.filter p) :=
  (sortedBy_of_pairwise ((sortedBy_pairwise _ _).filter p)).symm

/-- The barriers of the frontier are those of the work behind predecessors. -/
theorem barrierHolds_iff (holds : Holdings scheduler) {node : Text} :
    BarrierHolds scheduler.fields.edges scheduler.fields.workStates node ↔
      (predecessorsOf scheduler.plan.edges node ≠ [] →
        ∀ identity ∈ scheduler.plan.identities, identity.nodeId = node →
          (scheduler.states identity = some .blocked ↔
            ¬ scheduler.Permits node)) := by
  have permits : (∀ source ∈ predecessorsOf scheduler.fields.edges node,
      WorkSucceeded scheduler.fields.workStates source) ↔
        scheduler.Permits node := by
    simp only [Permits, mem_predecessorsOf]
    apply forall₂_congr
    intro source edge
    exact holds.workSucceeded (holds.plan.spans _ edge).1
  rw [BarrierHolds, permits]
  apply imp_congr Iff.rfl
  constructor
  · intro each identity inPlan here
    obtain ⟨state, found⟩ :=
      Option.isSome_iff_exists.mp ((holds.known identity).mpr inPlan)
    rw [found, Option.some.injEq]
    exact each state
      (mem_nodeStates.mpr ⟨identity, holds.mem_workStates.mpr found, here⟩)
  · intro each state member
    obtain ⟨identity, found, here⟩ := mem_nodeStates.mp member
    have found := holds.mem_workStates.mp found
    have barrier := each identity
      ((holds.known identity).mp (by simp [found])) here
    rw [found, Option.some.injEq] at barrier
    exact barrier

/-- The constructor can only object to the barriers. -/
theorem fields_coherent (holds : Holdings scheduler) :
    scheduler.fields.Coherent ↔ ∀ node ∈ scheduler.plan.nodeOrder,
      BarrierHolds scheduler.fields.edges scheduler.fields.workStates
        node := by
  refine ⟨fun coherent => coherent.barriers, fun barriers => ?_⟩
  have plan := holds.plan
  have nodup : scheduler.plan.ordered.Nodup :=
    (sortedBy_perm _ _).nodup_iff.mpr plan.distinct
  constructor
  case plan =>
    exact ⟨rfl, plan.fingerprint, plan.run, plan.plain, plan.nonempty,
      plan.nodes, plan.ends, plan.edges, plan.ordered, plan.spans,
      plan.proper, plan.acyclic⟩
  case entries =>
    constructor
    case bounded =>
      have lengths := congrArg List.length holds.identities_fields
      rw [FrontierFields.identities, List.length_map,
        SchedulerPlan.ordered, sortedBy_length] at lengths
      rw [lengths]
      exact plan.bounded
    case fences =>
      rintro ⟨identity, fence⟩ member
      exact holds.fences identity fence (mem_itemsOf.mp member).2
    case placed =>
      intro identity member
      rw [holds.identities_fields, SchedulerPlan.mem_ordered] at member
      exact plan.known_node member
    case work =>
      rw [holds.identities_fields]
      exact nodup
    case workOrdered =>
      rw [holds.identities_fields]
      exact (sortedBy_idem _ _).symm
    case covers =>
      intro node known
      obtain ⟨identity, inPlan, here⟩ := plan.node_work known
      rw [holds.identities_fields]
      exact ⟨identity, SchedulerPlan.mem_ordered.mpr inPlan, here⟩
    case fencedKnown =>
      intro identity member
      rw [fenced_fields] at member
      rw [holds.identities_fields]
      exact (List.mem_filter.mp member).1
    case fenced =>
      rw [fenced_fields]
      exact nodup.filter _
    case fencedOrdered =>
      rw [fenced_fields]
      exact ordered_filter _ _
    case waiting =>
      rw [holds.waiting_fields]
      exact nodup.filter _
    case waitingOrdered =>
      rw [holds.waiting_fields]
      exact ordered_filter _ _
  case holdings =>
    constructor
    case flight =>
      rintro ⟨identity, state⟩ member
      have found := holds.mem_workStates.mp member
      rw [holds.mem_fenced, holds.flight, found]
      constructor
      · intro inFlight
        exact ⟨state, rfl, inFlight⟩
      · rintro ⟨_, same, inFlight⟩
        rw [Option.some.inj same]
        exact inFlight
    case waits =>
      intro identity
      rw [holds.mem_workStates, holds.mem_waiting]
  case barriers => exact barriers
  case control =>
    exact ⟨holds.control.1, holds.control.2.1, holds.control.2.2⟩

end Holdings

namespace SchedulerInvariant

variable {scheduler : ConcurrentScheduler}

/-- The constructor accepts the frontier of every scheduler. -/
theorem fields_coherent (holds : SchedulerInvariant scheduler) :
    scheduler.fields.Coherent := by
  refine holds.toHoldings.fields_coherent.mpr fun node _ => ?_
  refine holds.toHoldings.barrierHolds_iff.mpr fun _ identity inPlan here => ?_
  rw [holds.barrier identity inPlan, here]

/-- Reading the frontier does not raise. -/
theorem frontier_eq_ok (holds : SchedulerInvariant scheduler) :
    ∃ frontier, scheduler.frontier = .ok frontier ∧
      frontier.toFrontierFields = scheduler.fields :=
  ⟨⟨scheduler.fields, FrontierFields.check_eq_ok.mpr holds.fields_coherent⟩,
    SchedulerFrontierV2.create_eq_ok.mpr rfl, rfl⟩

end SchedulerInvariant

end ConcurrentScheduler

end ParityGrid.Application
