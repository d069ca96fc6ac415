import ParityGrid.Application.Execution.SequentialRuns

/-!
# Restoring the sequential scheduler

The checks on a restored state leave one position of the plan that it can
show.  Runs lead to every position, so what can be restored is what a run
reaches, and the restored tracker is the one that was there.
-/

namespace ParityGrid.Application.Sequential

open ParityGrid.Foundation
open ParityGrid.Domain

/-! ## The checks -/

section Checks

variable {plan : ExecutionPlan} {position : Position}
  {state : SchedulerState} {statuses : List (NodeId × ScheduledNodeStatus)}

/-- What the loop asks of one node, apart from the order of the successes. -/
def RestorableNode (plan : ExecutionPlan)
    (statuses : List (NodeId × ScheduledNodeStatus)) (node : ScheduledNode) :
    Prop :=
  ∃ remaining, remainingDependencies plan statuses node.nodeId =
      .ok remaining ∧
    (remaining ≠ [] → node.status = .blocked) ∧
    node.remainingDependencyIds =
      sortedBy (fun dependencyId => dependencyId.value) remaining

theorem validateRestoredNode_eq_ok {seenFrontier : Bool}
    {node : ScheduledNode} :
    validateRestoredNode plan statuses seenFrontier node = .ok () ↔
      (node.status = .succeeded → seenFrontier = false) ∧
        RestorableNode plan statuses node := by
  simp only [validateRestoredNode, bind_eq_ok, require_eq_ok,
    RestorableNode, Bool.not_eq_true', Bool.and_eq_false_iff,
    beq_eq_false_iff_ne, bne_eq_false_iff_eq, beq_iff_eq]
  constructor
  · rintro ⟨_, first, remaining, returned, _, blocked, same⟩
    refine ⟨first.resolve_left ∘ not_not.mpr, remaining, returned, ?_, same⟩
    intro waits
    cases remaining with
    | nil => exact (waits rfl).elim
    | cons dependencyId rest => exact blocked.resolve_left Bool.noConfusion
  · rintro ⟨first, remaining, returned, blocked, same⟩
    refine ⟨(), or_iff_not_imp_left.mpr (first ∘ not_not.mp), remaining,
      returned, (), ?_, same⟩
    cases remaining with
    | nil => exact .inl rfl
    | cons dependencyId rest =>
        exact .inr (blocked (List.cons_ne_nil _ _))

/-- The loop: successes come first, and every node is as the plan says. -/
theorem validateRestoredNodes_eq_ok {seenFrontier : Bool}
    {nodes : List ScheduledNode} :
    validateRestoredNodes plan statuses seenFrontier nodes = .ok () ↔
      (∀ node ∈ nodes, RestorableNode plan statuses node) ∧
      nodes.Pairwise (fun earlier later =>
        later.status = .succeeded → earlier.status = .succeeded) ∧
      (seenFrontier = true → ∀ node ∈ nodes, node.status ≠ .succeeded) := by
  induction nodes generalizing seenFrontier with
  | nil => simp [validateRestoredNodes]
  | cons node rest ih =>
      rw [validateRestoredNodes, check_bind_eq_ok, validateRestoredNode_eq_ok,
        ih, List.forall_mem_cons, List.pairwise_cons, List.forall_mem_cons]
      cases seenFrontier with
      | true =>
          constructor
          · rintro ⟨⟨first, here⟩, all, ordered, none_⟩
            have later := none_ rfl
            exact ⟨⟨here, all⟩, ⟨fun other member succeeded =>
              (later other member succeeded).elim, ordered⟩,
              fun _ => ⟨fun succeeded => Bool.noConfusion (first succeeded),
                later⟩⟩
          · rintro ⟨⟨here, all⟩, ⟨_, ordered⟩, none_⟩
            exact ⟨⟨fun succeeded => ((none_ rfl).1 succeeded).elim, here⟩, all,
              ordered, fun _ => (none_ rfl).2⟩
      | false =>
          constructor
          · rintro ⟨⟨_, here⟩, all, ordered, none_⟩
            refine ⟨⟨here, all⟩, ⟨?_, ordered⟩, Bool.noConfusion⟩
            intro other member succeeded
            by_contra unfinished
            exact none_ (by simpa using unfinished) other member succeeded
          · rintro ⟨⟨here, all⟩, ⟨before, ordered⟩, _⟩
            refine ⟨⟨fun _ => rfl, here⟩, all, ordered, ?_⟩
            intro seen other member succeeded
            have unfinished : node.status ≠ .succeeded := by simpa using seen
            exact unfinished (before other member succeeded)

theorem validateRestoredFrontier_eq_ok {frontier : ScheduledNode} :
    validateRestoredFrontier state frontier = .ok () ↔
      (state.activeNodeId.isSome → frontier.status = .running) ∧
        (state.failedNodeId.isSome → frontier.status = .failed) := by
  simp only [validateRestoredFrontier, check_bind_eq_ok, require_eq_ok,
    Bool.not_eq_true', Bool.and_eq_false_iff, bne_eq_false_iff_eq]
  cases state.activeNodeId.isSome <;> cases state.failedNodeId.isSome <;> simp

/-- The plan lists its nodes by place. -/
theorem places_increase (plan : ExecutionPlan) :
    plan.nodeIds.Pairwise fun earlier later =>
      plan.place earlier < plan.place later := by
  rw [List.pairwise_iff_getElem]
  intro i j first second below
  have left := plan.distinct.idxOf_getElem i first
  have right := plan.distinct.idxOf_getElem j second
  unfold ExecutionPlan.place
  omega

theorem Shows.node_status (shows_ : Shows plan position state)
    {node : ScheduledNode} (member : node ∈ state.nodes) :
    node.nodeId ∈ plan.nodeIds ∧
      node.status = position.nodeStatus plan node.nodeId ∧
      node.remainingDependencyIds =
        unsatisfied plan position.count node.nodeId := by
  rcases entry_of_mem shows_.entries member with ⟨known, same⟩
  exact ⟨known, congrArg (fun item => item.2.1) same,
    congrArg (fun item => item.2.2) same⟩

/-- The state of a position passes every check. -/
theorem Shows.restorable (shows_ : Shows plan position state)
    (fits : position.Fits plan) :
    validateRestoredState plan state = .ok () := by
  have identities := nodeIds_of_entries shows_.entries
  have lookups : ∀ nodeId ∈ plan.nodeIds, statusOf state.statuses nodeId =
      .ok (position.nodeStatus plan nodeId) := by
    intro nodeId known
    rw [statusOf, shows_.statuses_eq, lookup_map_self _ known]
  have loop : validateRestoredNodes plan state.statuses false state.nodes =
      .ok () := by
    rw [validateRestoredNodes_eq_ok]
    refine ⟨?_, ?_, Bool.noConfusion⟩
    · intro node member
      rcases shows_.node_status member with ⟨known, status, remaining⟩
      refine ⟨_, remainingDependencies_eq lookups
        (fun nodeId _ => nodeStatus_succeeded) node.nodeId, ?_, ?_⟩
      · rw [status]
        exact nodeStatus_blocked.mpr
      · rw [remaining, unsatisfied_sorted]
    · have ordered := places_increase plan
      rw [← identities, List.pairwise_map] at ordered
      refine (List.Pairwise.and_mem.mp ordered).imp ?_
      rintro earlier later ⟨first, second, below⟩ succeeded
      rw [(shows_.node_status second).2.1, nodeStatus_succeeded] at succeeded
      rw [(shows_.node_status first).2.1, nodeStatus_succeeded]
      exact below.trans succeeded
  have counted : state.succeededNodeIds.length = position.count := by
    rw [shows_.succeeded, List.length_take, min_eq_left fits.1]
  unfold validateRestoredState
  rw [shows_.fingerprint, identities, loop, counted]
  simp only [beq_self_eq_true, require_true, ok_bind]
  split
  next => rfl
  next unfinished =>
    rcases frontier_present fits unfinished with ⟨frontier, present, known, here⟩
    rw [← identities, List.getElem?_map] at present
    rcases Option.map_eq_some_iff.mp present with ⟨node, found, same⟩
    rw [found]
    have status := (shows_.node_status (List.mem_of_getElem? found)).2.1
    rw [same, nodeStatus_frontier here] at status
    show validateRestoredFrontier state node = .ok ()
    rw [validateRestoredFrontier_eq_ok, status]
    constructor
    · intro running
      rw [shows_.activeNodeId_eq] at running
      split at running
      next busy => rw [busy]; rfl
      next => cases running
    · intro failed
      rw [SchedulerState.failedNodeId, withStatus_busy shows_.entries
        (.inr rfl)] at failed
      split at failed
      next busy => exact busy
      next => cases failed

/-- A property that only ever ends selects a front of the list. -/
theorem filter_eq_take {α : Type} {p : α → Bool} {values : List α}
    (ordered : values.Pairwise fun earlier later =>
      p later = true → p earlier = true) :
    values.filter p = values.take (values.filter p).length := by
  induction values with
  | nil => rfl
  | cons value rest ih =>
      rw [List.pairwise_cons] at ordered
      cases holds : p value with
      | true =>
          rw [List.filter_cons_of_pos holds, List.length_cons,
            List.take_succ_cons, ← ih ordered.2]
      | false =>
          have none_ : rest.filter p = [] := by
            rw [List.filter_eq_nil_iff]
            intro other member later
            rw [ordered.1 other member later] at holds
            cases holds
          rw [List.filter_cons_of_neg (by simp [holds]), none_]
          rfl

/-- In an ordered state the successes are the nodes in front. -/
theorem succeeded_iff_place {nodes : List ScheduledNode}
    (identities : (nodes.map fun node => node.nodeId) = plan.nodeIds)
    (ordered : nodes.Pairwise fun earlier later =>
      later.status = .succeeded → earlier.status = .succeeded)
    {node : ScheduledNode} (member : node ∈ nodes) :
    node.status = .succeeded ↔
      plan.place node.nodeId < (withStatus nodes .succeeded).length := by
  have known : node.nodeId ∈ plan.nodeIds :=
    identities ▸ List.mem_map_of_mem member
  have front : withStatus nodes .succeeded =
      plan.nodeIds.take (withStatus nodes .succeeded).length := by
    have tested : nodes.Pairwise fun earlier later =>
        (later.status == .succeeded) = true →
          (earlier.status == .succeeded) = true :=
      ordered.imp fun keeps => by simpa using keeps
    have taken := filter_eq_take tested
    have images := congrArg (List.map fun node => node.nodeId) taken
    rw [List.map_take, identities] at images
    rw [withStatus, List.length_map]
    exact images
  rw [← ExecutionPlan.mem_take_iff known, ← front]
  constructor
  · intro succeeded
    exact List.mem_map_of_mem
      (List.mem_filter.mpr ⟨member, beq_iff_eq.mpr succeeded⟩)
  · intro inFront
    rcases List.mem_map.mp inFront with ⟨other, selected, same⟩
    rcases List.mem_filter.mp selected with ⟨alsoMember, succeeded⟩
    have distinct : (nodes.map fun node => node.nodeId).Nodup :=
      identities ▸ plan.distinct
    rw [← List.inj_on_of_nodup_map distinct alsoMember member same]
    exact beq_iff_eq.mp succeeded

/-- What the loop leaves of a restored state. -/
structure Restorable (plan : ExecutionPlan) (count : Nat)
    (state : SchedulerState) : Prop where
  fingerprint : state.planFingerprint = plan.fingerprint
  identities : (state.nodes.map fun node => node.nodeId) = plan.nodeIds
  within : count ≤ plan.nodeIds.length
  succeeded : ∀ node ∈ state.nodes,
    node.status = .succeeded ↔ plan.place node.nodeId < count
  remaining : ∀ node ∈ state.nodes,
    node.remainingDependencyIds = unsatisfied plan count node.nodeId
  frontier : count ≠ plan.nodeIds.length → ∃ node ∈ state.nodes,
    plan.place node.nodeId = count ∧
      (state.activeNodeId.isSome → node.status = .running) ∧
      (state.failedNodeId.isSome → node.status = .failed)

theorem restorable_of_valid
    (valid : validateRestoredState plan state = .ok ()) :
    Restorable plan state.succeededNodeIds.length state := by
  unfold validateRestoredState at valid
  simp only [check_bind_eq_ok, require_eq_ok, beq_iff_eq] at valid
  rcases valid with ⟨fingerprint, identities, loop, last⟩
  rcases validateRestoredNodes_eq_ok.mp loop with ⟨each, ordered, _⟩
  have succeeded : ∀ node ∈ state.nodes, node.status = .succeeded ↔
      plan.place node.nodeId < state.succeededNodeIds.length :=
    fun node member => succeeded_iff_place identities ordered member
  have distinct : (state.statuses.map Prod.fst).Nodup := by
    rw [SchedulerState.statuses, List.map_map]
    exact identities ▸ plan.distinct
  have lookups : ∀ node ∈ state.nodes,
      state.statuses.lookup node.nodeId = some node.status :=
    fun node member => (lookup_eq_some_iff_mem distinct).mpr
      (List.mem_map_of_mem member)
  have ofIdentity : ∀ nodeId ∈ plan.nodeIds,
      ∃ node ∈ state.nodes, node.nodeId = nodeId := by
    intro nodeId known
    rw [← identities] at known
    exact List.mem_map.mp known
  refine ⟨fingerprint, identities, ?_, succeeded, ?_, ?_⟩
  · rw [← identities, List.length_map, SchedulerState.succeededNodeIds,
      withStatus, List.length_map]
    exact List.length_filter_le _ _
  · intro node member
    rcases each node member with ⟨remaining, returned, _, same⟩
    have found : ∀ nodeId ∈ plan.nodeIds, statusOf state.statuses nodeId =
        .ok ((state.statuses.lookup nodeId).getD .blocked) := by
      intro nodeId known
      rcases ofIdentity nodeId known with ⟨other, inside, rfl⟩
      rw [statusOf, lookups other inside]
      rfl
    have inFront : ∀ nodeId ∈ plan.nodeIds,
        (state.statuses.lookup nodeId).getD .blocked = .succeeded ↔
          plan.place nodeId < state.succeededNodeIds.length := by
      intro nodeId known
      rcases ofIdentity nodeId known with ⟨other, inside, rfl⟩
      rw [lookups other inside]
      exact succeeded other inside
    rw [remainingDependencies_eq found inFront] at returned
    cases returned
    rw [same, unsatisfied_sorted]
  · intro unfinished
    rw [if_neg unfinished] at last
    cases found : state.nodes[state.succeededNodeIds.length]? with
    | none =>
        rw [found] at last
        cases last
    | some node =>
        rw [found] at last
        have member := List.mem_of_getElem? found
        have known : node.nodeId ∈ plan.nodeIds :=
          identities ▸ List.mem_map_of_mem member
        refine ⟨node, member, ?_, validateRestoredFrontier_eq_ok.mp last⟩
        rw [ExecutionPlan.place_eq_iff known, ← identities, List.getElem?_map,
          found]
        rfl

/-- A node that is the only one with its status. -/
theorem place_eq_of_withStatus {status : ScheduledNodeStatus}
    {nodes : List ScheduledNode} {first second : ScheduledNode}
    (single : (withStatus nodes status).length ≤ 1)
    (firstMember : first ∈ nodes) (secondMember : second ∈ nodes)
    (firstStatus : first.status = status)
    (secondStatus : second.status = status) :
    first.nodeId = second.nodeId := by
  have inside : ∀ node ∈ nodes, node.status = status →
      node.nodeId ∈ withStatus nodes status := fun node member same =>
    List.mem_map_of_mem (List.mem_filter.mpr ⟨member, beq_iff_eq.mpr same⟩)
  have left := inside first firstMember firstStatus
  have right := inside second secondMember secondStatus
  cases shape : withStatus nodes status with
  | nil => rw [shape] at left; cases left
  | cons only rest =>
      rw [shape] at left right single
      cases rest with
      | nil =>
          exact (List.mem_singleton.mp left).trans
            (List.mem_singleton.mp right).symm
      | cons _ _ => simp at single

theorem withStatus_isSome {nodes : List ScheduledNode} {node : ScheduledNode}
    (member : node ∈ nodes) :
    ((withStatus nodes node.status).head?).isSome := by
  have inside : node.nodeId ∈ withStatus nodes node.status :=
    List.mem_map_of_mem (List.mem_filter.mpr ⟨member, beq_self_eq_true _⟩)
  rw [List.isSome_head?]
  exact List.ne_nil_of_mem inside

theorem exists_of_withStatus {nodes : List ScheduledNode}
    {status : ScheduledNodeStatus}
    (one : (withStatus nodes status).length = 1) :
    ∃ node ∈ nodes, node.status = status := by
  by_contra none_
  have empty : withStatus nodes status = [] :=
    withStatus_eq_nil.mpr fun node member same => none_ ⟨node, member, same⟩
  rw [empty] at one
  cases one

/-- Nodes that are as a position says show that position. -/
theorem Restorable.shows_of_status {count : Nat} {activity : Activity}
    (holds : Restorable plan count state)
    (nodes : ∀ node ∈ state.nodes, node.status =
      Position.nodeStatus plan ⟨count, activity⟩ node.nodeId)
    (status : state.status = Position.schedulerStatus plan ⟨count, activity⟩) :
    Shows plan ⟨count, activity⟩ state := by
  refine ⟨?_, status, holds.fingerprint,
    (validateSchedulerState_eq_ok.mp state.valid).1⟩
  rw [← holds.identities, List.map_map]
  apply List.map_congr_left
  intro node member
  simp only [ScheduledNode.entry, Position.entry, Function.comp,
    nodes node member, holds.remaining node member]

/-- A restored state with everything done. -/
theorem Restorable.finished {count : Nat} (holds : Restorable plan count state)
    (finished : count = plan.nodeIds.length) :
    Shows plan ⟨count, .idle⟩ state := by
  have all : ∀ node ∈ state.nodes, node.status = .succeeded := by
    intro node member
    rw [holds.succeeded node member, finished]
    exact ExecutionPlan.place_lt (holds.identities ▸ List.mem_map_of_mem member)
  apply holds.shows_of_status
  · intro node member
    rw [all node member]
    exact (nodeStatus_succeeded.mpr
      ((holds.succeeded node member).mp (all node member))).symm
  · rcases validateSchedulerState_eq_ok.mp state.valid with
      ⟨_, nonempty, _, _, _, _, consistent⟩
    rw [Position.schedulerStatus, if_neg Activity.noConfusion, if_pos finished]
    cases status : state.status with
    | active =>
        rw [status] at consistent
        rcases consistent.2.1 with ⟨node, member, unfinished⟩
        exact (unfinished (all node member)).elim
    | succeeded => rfl
    | failed =>
        rw [status] at consistent
        rcases exists_of_withStatus consistent.1 with ⟨node, member, failed⟩
        rw [all node member] at failed
        cases failed

/-- What the node at the frontier is doing. -/
def ScheduledNodeStatus.activity : ScheduledNodeStatus → Activity
  | .running => .running
  | .failed => .failed
  | _ => .idle

/-- A restored state with a frontier shows what the frontier is doing. -/
theorem Restorable.unfinished {count : Nat}
    (holds : Restorable plan count state) {frontier : ScheduledNode}
    (member : frontier ∈ state.nodes)
    (here : plan.place frontier.nodeId = count)
    (running : state.activeNodeId.isSome → frontier.status = .running)
    (failed : state.failedNodeId.isSome → frontier.status = .failed) :
    Shows plan ⟨count, frontier.status.activity⟩ state := by
  rcases validateSchedulerState_eq_ok.mp state.valid with
    ⟨_, _, _, _, _, single, consistent⟩
  have known : ∀ node ∈ state.nodes, node.nodeId ∈ plan.nodeIds :=
    fun node inside => holds.identities ▸ List.mem_map_of_mem inside
  have inside : count < plan.nodeIds.length :=
    here ▸ ExecutionPlan.place_lt (known frontier member)
  have notSucceeded : frontier.status ≠ .succeeded := by
    rw [ne_eq, holds.succeeded frontier member, here]
    exact lt_irrefl _
  have blocked : ∀ node ∈ state.nodes, node.status = .blocked ↔
      unsatisfied plan count node.nodeId ≠ [] := by
    intro node inside
    rw [← holds.remaining node inside]
    exact (validateScheduledNode_eq_ok.mp node.valid).2.2.2
  have notBlocked : frontier.status ≠ .blocked := by
    rw [ne_eq, blocked frontier member, unsatisfied_eq_nil here.le]
    exact not_not.mpr rfl
  have shown : frontier.status.activity.status = frontier.status := by
    cases status : frontier.status with
    | blocked => exact (notBlocked status).elim
    | succeeded => exact (notSucceeded status).elim
    | ready => rfl
    | running => rfl
    | failed => rfl
  have isRunning : ∀ node ∈ state.nodes, node.status = .running →
      frontier.status = .running := by
    intro node inside same
    have some_ := withStatus_isSome inside
    rw [same] at some_
    exact running some_
  have isFailed : ∀ node ∈ state.nodes, node.status = .failed →
      frontier.status = .failed := by
    intro node inside same
    have some_ := withStatus_isSome inside
    rw [same] at some_
    exact failed some_
  have onlyFailed : (withStatus state.nodes .failed).length ≤ 1 := by
    cases status : state.status with
    | active =>
        rw [status] at consistent
        simp [consistent.1]
    | succeeded =>
        rw [status] at consistent
        exact (notSucceeded (consistent frontier member)).elim
    | failed =>
        rw [status] at consistent
        exact consistent.1.le
  apply holds.shows_of_status
  · intro node inside
    rcases lt_trichotomy (plan.place node.nodeId) count with
      before | same | behind
    · rw [(holds.succeeded node inside).mpr before]
      exact (nodeStatus_succeeded.mpr before).symm
    · have identity : node.nodeId = frontier.nodeId := by
        have left := (ExecutionPlan.place_eq_iff (known node inside)).mp same
        rw [(ExecutionPlan.place_eq_iff (known frontier member)).mp here]
          at left
        exact (Option.some.inj left).symm
      have distinct : (state.nodes.map fun node => node.nodeId).Nodup :=
        holds.identities ▸ plan.distinct
      have equal := List.inj_on_of_nodup_map distinct inside member identity
      rw [equal]
      symm
      rw [nodeStatus_frontier here, shown]
    · have apart : node.nodeId ≠ frontier.nodeId := by
        intro equal
        rw [equal, here] at behind
        exact lt_irrefl _ behind
      rw [nodeStatus_behind behind]
      cases status : node.status with
      | succeeded =>
          have before := (holds.succeeded node inside).mp status
          omega
      | running =>
          exact (apart (place_eq_of_withStatus single inside member status
            (isRunning node inside status))).elim
      | failed =>
          exact (apart (place_eq_of_withStatus onlyFailed inside member status
            (isFailed node inside status))).elim
      | blocked =>
          exact (waitingStatus_eq_blocked.mpr
            ((blocked node inside).mp status)).symm
      | ready =>
          rw [waitingStatus, if_pos]
          by_contra waits
          rw [(blocked node inside).mpr waits] at status
          cases status
  · rw [Position.schedulerStatus, if_neg inside.ne]
    cases status : state.status with
    | active =>
        rw [status] at consistent
        rw [if_neg]
        intro same
        exact withStatus_eq_nil.mp consistent.1 frontier member
          (shown.symm.trans (Activity.status_eq_failed.mpr same))
    | succeeded =>
        rw [status] at consistent
        exact (notSucceeded (consistent frontier member)).elim
    | failed =>
        rw [status] at consistent
        rcases exists_of_withStatus consistent.1 with ⟨node, inside, same⟩
        rw [isFailed node inside same]
        rfl

/-- A state that passes every check shows a position. -/
theorem exists_shows_of_valid
    (valid : validateRestoredState plan state = .ok ()) :
    ∃ position, position.Fits plan ∧ Shows plan position state := by
  have holds := restorable_of_valid valid
  by_cases finished : state.succeededNodeIds.length = plan.nodeIds.length
  · exact ⟨_, ⟨holds.within, fun busy => (busy rfl).elim⟩,
      holds.finished finished⟩
  · rcases holds.frontier finished with ⟨frontier, member, here, running, failed⟩
    exact ⟨_, ⟨holds.within, fun _ => Nat.lt_of_le_of_ne holds.within finished⟩,
      holds.unfinished member here running failed⟩

end Checks

/-! ## Runs -/

/-- A tracker, and the nodes in the order in which they were first started. -/
structure SequentialRun where
  tracker : DependencyTracker
  started : List NodeId

/-- A node that starts again after a pause was started before. -/
def noteStart (started : List NodeId) : SchedulerCall → List NodeId
  | .start nodeId =>
      if nodeId ∈ started then started else started ++ [nodeId]
  | _ => started

/-- The runs of successful calls on a new tracker. -/
def sequentialRuns (plan : ExecutionPlan) :
    TransitionSystem SequentialRun SchedulerCall where
  Initial run := DependencyTracker.create plan = .ok run.tracker ∧
    run.started = []
  Step run call next := run.tracker.apply call = .ok next.tracker ∧
    next.started = noteStart run.started call

/-- The answers to a sequence of calls, up to the first one that raises. -/
def DependencyTracker.applyAll (tracker : DependencyTracker)
    (calls : List SchedulerCall) : Except SchedulerError DependencyTracker :=
  calls.foldlM DependencyTracker.apply tracker

section Runs

variable {plan : ExecutionPlan} {run : SequentialRun}

/-- A run stands at a position, and has started what that position says. -/
structure StandsAt (plan : ExecutionPlan) (position : Position)
    (run : SequentialRun) : Prop where
  plan_eq : run.tracker.plan = plan
  fits : position.Fits plan
  shows_ : Shows plan position run.tracker.state
  started : (run.started = plan.nodeIds.take position.count ∧
      position.activity = .idle) ∨
    (run.started = plan.nodeIds.take (position.count + 1) ∧
      position.count < plan.nodeIds.length)

/-- The tracker of a run, with its plan made visible. -/
theorem StandsAt.tracker_eq {position : Position}
    (stands : StandsAt plan position run) :
    run.tracker = ⟨plan, run.tracker.state⟩ := by
  rw [← stands.plan_eq]

/-- What an allowed call adds to the nodes that were started. -/
theorem StandsAt.noteStart {position next : Position} {call : SchedulerCall}
    (stands : StandsAt plan position run)
    (allowed : position.answer plan call = some next) :
    (noteStart run.started call = plan.nodeIds.take next.count ∧
      next.activity = .idle) ∨
    (noteStart run.started call = plan.nodeIds.take (next.count + 1) ∧
      next.count < plan.nodeIds.length) := by
  have busyStarted : position.activity = .running →
      run.started = plan.nodeIds.take (position.count + 1) := by
    intro running
    rcases stands.started with ⟨_, idle⟩ | ⟨same, _⟩
    · rw [running] at idle
      cases idle
    · exact same
  cases call with
  | start nodeId =>
      simp only [Position.answer] at allowed
      split at allowed
      next idle =>
        cases allowed
        rcases List.getElem?_eq_some_iff.mp idle.2 with ⟨inside, here⟩
        have extended : plan.nodeIds.take (position.count + 1) =
            plan.nodeIds.take position.count ++ [nodeId] := by
          rw [List.take_succ_eq_append_getElem inside, here]
        refine .inr ⟨?_, inside⟩
        show (if nodeId ∈ run.started then run.started
          else run.started ++ [nodeId]) = _
        rcases stands.started with ⟨same, _⟩ | ⟨same, _⟩
        · have known := List.mem_of_getElem? idle.2
          have fresh : nodeId ∉ plan.nodeIds.take position.count := by
            rw [ExecutionPlan.mem_take_iff known,
              (ExecutionPlan.place_eq_iff known).mpr idle.2]
            exact lt_irrefl _
          rw [same, if_neg fresh, extended]
        · rw [same, if_pos]
          rw [extended]
          exact List.mem_append_right _ List.mem_cons_self
      next => cases allowed
  | succeed nodeId =>
      simp only [Position.answer] at allowed
      split at allowed
      next busy =>
        cases allowed
        exact .inl ⟨busyStarted busy.1, rfl⟩
      next => cases allowed
  | fail nodeId =>
      simp only [Position.answer] at allowed
      split at allowed
      next busy =>
        cases allowed
        exact .inr ⟨busyStarted busy.1,
          (List.getElem?_eq_some_iff.mp busy.2).1⟩
      next => cases allowed
  | pause nodeId =>
      simp only [Position.answer] at allowed
      split at allowed
      next busy =>
        cases allowed
        exact .inr ⟨busyStarted busy.1,
          (List.getElem?_eq_some_iff.mp busy.2).1⟩
      next => cases allowed

/-- A successful call is one that the position allows. -/
theorem StandsAt.apply_ok {position : Position} {call : SchedulerCall}
    {tracker : DependencyTracker} (stands : StandsAt plan position run)
    (applied : run.tracker.apply call = .ok tracker) :
    ∃ next, position.answer plan call = some next ∧
      StandsAt plan next ⟨tracker, Sequential.noteStart run.started call⟩ := by
  rw [stands.tracker_eq] at applied
  cases answer : position.answer plan call with
  | none =>
      rcases stands.shows_.apply_refused stands.fits answer with
        ⟨error, raised, _⟩
      rw [applied] at raised
      cases raised
  | some next =>
      rcases stands.shows_.apply_answer stands.fits answer with
        ⟨fits, later, same, shown⟩
      rw [applied] at same
      cases same
      exact ⟨next, rfl, rfl, fits, shown, stands.noteStart answer⟩

/-- Every run stands at some position. -/
theorem exists_standsAt (reached : (sequentialRuns plan).Reachable run) :
    ∃ position, StandsAt plan position run := by
  induction reached with
  | @initial run starts =>
      rcases create_shows plan with ⟨state, created, fits, shown⟩
      have same : run.tracker = ⟨plan, state⟩ :=
        Except.ok.inj (starts.1.symm.trans created)
      refine ⟨⟨0, .idle⟩, ?_, fits, ?_, .inl ⟨starts.2, rfl⟩⟩
      · rw [same]
      · rw [same]
        exact shown
  | @step run next call _ moves ih =>
      rcases ih with ⟨position, stands⟩
      rcases stands.apply_ok moves.1 with ⟨later, _, standsLater⟩
      rw [← moves.2] at standsLater
      exact ⟨later, standsLater⟩

/-- An allowed call extends a run. -/
theorem StandsAt.step {position next : Position} {call : SchedulerCall}
    (stands : StandsAt plan position run)
    (reached : (sequentialRuns plan).Reachable run)
    (allowed : position.answer plan call = some next) :
    ∃ later, (sequentialRuns plan).Reachable later ∧
      StandsAt plan next later := by
  rcases stands.shows_.apply_answer stands.fits allowed with
    ⟨fits, state, applied, shown⟩
  rw [← stands.tracker_eq] at applied
  exact ⟨⟨⟨plan, state⟩, Sequential.noteStart run.started call⟩,
    reached.step ⟨applied, rfl⟩,
    rfl, fits, shown, stands.noteStart allowed⟩

/-- An idle frontier can be started. -/
theorem StandsAt.starts {count : Nat}
    (stands : StandsAt plan ⟨count, .idle⟩ run)
    (reached : (sequentialRuns plan).Reachable run) {nodeId : NodeId}
    (present : plan.nodeIds[count]? = some nodeId) :
    ∃ later, (sequentialRuns plan).Reachable later ∧
      StandsAt plan ⟨count, .running⟩ later := by
  have allowed : Position.answer plan ⟨count, .idle⟩ (.start nodeId) =
      some ⟨count, .running⟩ := if_pos ⟨rfl, present⟩
  exact stands.step reached allowed

/-- Runs lead to every position: start and complete the nodes one by one. -/
theorem exists_run {position : Position} (fits : position.Fits plan) :
    ∃ run, (sequentialRuns plan).Reachable run ∧
      StandsAt plan position run := by
  have idle : ∀ count ≤ plan.nodeIds.length, ∃ run,
      (sequentialRuns plan).Reachable run ∧
        StandsAt plan ⟨count, .idle⟩ run := by
    intro count
    induction count with
    | zero =>
        intro _
        rcases create_shows plan with ⟨state, created, fits, shown⟩
        exact ⟨⟨⟨plan, state⟩, []⟩, .initial ⟨created, rfl⟩,
          rfl, fits, shown, .inl ⟨rfl, rfl⟩⟩
    | succ count ih =>
        intro within
        have present := List.getElem?_eq_getElem within
        rcases ih (Nat.le_of_succ_le within) with ⟨before, reached, stands⟩
        rcases stands.starts reached present with
          ⟨busy, reachedBusy, running⟩
        have allowed : Position.answer plan ⟨count, .running⟩
            (.succeed plan.nodeIds[count]) = some ⟨count + 1, .idle⟩ :=
          if_pos ⟨rfl, present⟩
        exact running.step reachedBusy allowed
  rcases position with ⟨count, activity⟩
  rcases idle count fits.1 with ⟨before, reached, stands⟩
  cases activity with
  | idle => exact ⟨before, reached, stands⟩
  | running =>
      have inside : count < plan.nodeIds.length := fits.2 Activity.noConfusion
      exact stands.starts reached (List.getElem?_eq_getElem inside)
  | failed =>
      have inside : count < plan.nodeIds.length := fits.2 Activity.noConfusion
      have present := List.getElem?_eq_getElem inside
      rcases stands.starts reached present with ⟨busy, reachedBusy, running⟩
      have allowed : Position.answer plan ⟨count, .running⟩
          (.fail plan.nodeIds[count]) = some ⟨count, .failed⟩ :=
        if_pos ⟨rfl, present⟩
      exact running.step reachedBusy allowed

/-- What a restored state tells: the position of a run, and its tracker. -/
theorem restore_eq_ok {state : SchedulerState} {tracker : DependencyTracker} :
    DependencyTracker.restore plan state = .ok tracker ↔
      tracker = ⟨plan, state⟩ ∧
        ∃ position, position.Fits plan ∧ Shows plan position state := by
  rw [DependencyTracker.restore, check_bind_eq_ok, Except.ok.injEq]
  constructor
  · rintro ⟨valid, same⟩
    exact ⟨same.symm, exists_shows_of_valid valid⟩
  · rintro ⟨same, position, fits, shown⟩
    exact ⟨shown.restorable fits, same.symm⟩

/--
For every compiled plan, a new tracker is built and every run of successful
calls succeeds in the order of the plan: the succeeded nodes and the started
nodes are fronts of the plan, the next start is the node right behind the
succeeded ones and depends on them only, and a call that does not succeed is
refused as a transition, never by an invalid or deadlocked state.  A state is
accepted for restoration exactly when a run leads to it, and the restored
tracker answers every sequence of calls as the tracker of that run.
-/
theorem sequential_order (plan : ExecutionPlan) :
    Returns (DependencyTracker.create plan) ∧
    (∀ run, (sequentialRuns plan).Reachable run →
      run.tracker.state.succeededNodeIds <+: plan.nodeIds ∧
      run.started <+: plan.nodeIds ∧
      Returns run.tracker.nextReadyNode ∧
      (∀ call error, run.tracker.apply call = .error error →
        error.isTransition = true) ∧
      (∀ nodeId next, run.tracker.apply (.start nodeId) = .ok next →
        plan.nodeIds[run.tracker.state.succeededNodeIds.length]? =
            some nodeId ∧
          ∀ edge ∈ plan.edges, edge.targetNodeId = nodeId →
            edge.sourceNodeId ∈ run.tracker.state.succeededNodeIds) ∧
      ∀ calls, (DependencyTracker.restore plan run.tracker.state >>=
          fun tracker => tracker.applyAll calls) =
        run.tracker.applyAll calls) ∧
    ∀ state, Returns (DependencyTracker.restore plan state) ↔
      ∃ run, (sequentialRuns plan).Reachable run ∧
        run.tracker.state = state := by
  refine ⟨?_, ?_, ?_⟩
  · rcases create_shows plan with ⟨state, created, _⟩
    exact ⟨_, created⟩
  · intro run reached
    rcases exists_standsAt reached with ⟨position, stands⟩
    have succeeded := stands.shows_.succeeded
    refine ⟨?_, ?_, ?_, ?_, ?_, ?_⟩
    · rw [succeeded]
      exact List.take_prefix _ _
    · rcases stands.started with ⟨same, _⟩ | ⟨same, _⟩ <;> rw [same] <;>
        exact List.take_prefix _ _
    · rw [stands.tracker_eq, stands.shows_.nextReadyNode_eq stands.fits]
      exact .ok _
    · intro call error raised
      rw [stands.tracker_eq] at raised
      cases answer : position.answer plan call with
      | none =>
          rcases stands.shows_.apply_refused stands.fits answer with
            ⟨other, same, kind⟩
          rw [raised] at same
          cases same
          exact kind
      | some next =>
          rcases stands.shows_.apply_answer stands.fits answer with
            ⟨_, later, same, _⟩
          rw [raised] at same
          cases same
    · intro nodeId next applied
      rcases stands.apply_ok applied with ⟨_, answer, _⟩
      simp only [Position.answer] at answer
      split at answer
      next idle =>
        have inside := (List.getElem?_eq_some_iff.mp idle.2).1
        rw [succeeded, List.length_take, min_eq_left inside.le]
        refine ⟨idle.2, ?_⟩
        intro edge member target
        rcases plan.checked.2.2.2 edge member with ⟨source, known, before⟩
        rw [ExecutionPlan.mem_take_iff source]
        rw [target] at known before
        rwa [(ExecutionPlan.place_eq_iff known).mpr idle.2] at before
      next => cases answer
    · intro calls
      have restored : DependencyTracker.restore plan run.tracker.state =
          .ok run.tracker :=
        restore_eq_ok.mpr
          ⟨stands.tracker_eq, position, stands.fits, stands.shows_⟩
      rw [restored, ok_bind]
  · intro state
    constructor
    · rintro ⟨tracker, restored⟩
      rcases restore_eq_ok.mp restored with ⟨_, position, fits, shown⟩
      rcases exists_run fits with ⟨run, reached, stands⟩
      exact ⟨run, reached, stands.shows_.unique shown⟩
    · rintro ⟨run, reached, rfl⟩
      rcases exists_standsAt reached with ⟨position, stands⟩
      exact ⟨_, restore_eq_ok.mpr ⟨rfl, position, stands.fits, stands.shows_⟩⟩

end Runs

/-- One node that extracts and one behind it that loads. -/
def samplePlan : ExecutionPlan where
  nodeIds := [sampleNodeIds.1, sampleNodeIds.2]
  edges := [{
    sourceNodeId := sampleNodeIds.1
    sourcePort := ⟨text "rows", by decide +kernel⟩
    targetNodeId := sampleNodeIds.2
    targetPort := ⟨text "rows", by decide +kernel⟩ }]
  fingerprint := samplePlanFingerprint
  valid := by decide +kernel

/-- The first node has succeeded and the second one is running. -/
theorem sequential_order_sample :
    ∃ run, (sequentialRuns samplePlan).Reachable run ∧
      run.started = [sampleNodeIds.1, sampleNodeIds.2] ∧
      run.tracker.state.succeededNodeIds = [sampleNodeIds.1] ∧
      ∀ calls, (DependencyTracker.restore samplePlan run.tracker.state >>=
          fun restored => restored.applyAll calls) =
        run.tracker.applyAll calls := by
  have fits : Position.Fits samplePlan ⟨1, .running⟩ :=
    ⟨Nat.le_succ 1, fun _ => Nat.one_lt_two⟩
  rcases exists_run fits with ⟨run, reached, stands⟩
  refine ⟨run, reached, ?_, stands.shows_.succeeded,
    ((sequential_order samplePlan).2.1 _ reached).2.2.2.2.2⟩
  rcases stands.started with ⟨_, impossible⟩ | ⟨started, _⟩
  · cases impossible
  · exact started

end ParityGrid.Application.Sequential
