import ParityGrid.Application.Execution.SequentialScheduler

/-!
# Runs of the sequential scheduler

A tracker is always somewhere along the plan: some nodes in front have
succeeded, and the next one is idle, running or failed.  This position
determines the whole state, so a state can be restored exactly when a run
leads to it.
-/

namespace ParityGrid.Application.Sequential

open ParityGrid.Foundation
open ParityGrid.Domain

/-! ## The order of the plan -/

namespace ExecutionPlan

variable {plan : ExecutionPlan}

/-- Where a node stands in the order of the plan. -/
def place (plan : ExecutionPlan) (nodeId : NodeId) : Nat :=
  plan.nodeIds.idxOf nodeId

theorem checked (plan : ExecutionPlan) :
    plan.nodeIds ≠ [] ∧ plan.nodeIds.length ≤ maxExecutionPlanNodes ∧
      plan.nodeIds.Nodup ∧ ∀ edge ∈ plan.edges,
        edge.sourceNodeId ∈ plan.nodeIds ∧ edge.targetNodeId ∈ plan.nodeIds ∧
          plan.place edge.sourceNodeId < plan.place edge.targetNodeId := by
  have valid := plan.valid
  simp only [validateExecutionPlan, check_bind_eq_ok, require_eq_ok,
    bne_iff_ne, decide_eq_true_eq, List.all_eq_true, Bool.and_eq_true,
    List.contains_iff_mem] at valid
  rcases valid with ⟨nonempty, bounded, _, distinct, _, known, ordered⟩
  exact ⟨nonempty, bounded, distinct, fun edge member =>
    ⟨(known edge member).1, (known edge member).2, ordered edge member⟩⟩

theorem distinct (plan : ExecutionPlan) : plan.nodeIds.Nodup :=
  plan.checked.2.2.1

theorem mem_dependencies {nodeId dependencyId : NodeId} :
    dependencyId ∈ plan.dependencies nodeId ↔
      ∃ edge ∈ plan.edges, edge.targetNodeId = nodeId ∧
        edge.sourceNodeId = dependencyId := by
  simp [dependencies, and_assoc]

/-- A node depends on earlier nodes only. -/
theorem dependencies_before {nodeId dependencyId : NodeId}
    (member : dependencyId ∈ plan.dependencies nodeId) :
    dependencyId ∈ plan.nodeIds ∧ nodeId ∈ plan.nodeIds ∧
      plan.place dependencyId < plan.place nodeId := by
  rcases mem_dependencies.mp member with ⟨edge, inPlan, rfl, rfl⟩
  exact plan.checked.2.2.2 edge inPlan

theorem dependencies_nodup (nodeId : NodeId) :
    (plan.dependencies nodeId).Nodup :=
  (sortedBy_perm _ _).nodup_iff.mpr (List.nodup_dedup _)

theorem dependencies_pairwise (nodeId : NodeId) :
    (plan.dependencies nodeId).Pairwise fun a b => a.value ≤ b.value :=
  sortedBy_pairwise _ _

/-- A node and its dependencies are different nodes of the plan. -/
theorem dependencies_length {nodeId : NodeId} :
    (plan.dependencies nodeId).length ≤ maxSchedulerDependencies := by
  by_cases empty : plan.dependencies nodeId = []
  · rw [empty]
    exact Nat.zero_le _
  · rcases List.exists_mem_of_ne_nil _ empty with ⟨first, member⟩
    have distinct : (nodeId :: plan.dependencies nodeId).Nodup :=
      List.nodup_cons.mpr ⟨fun self =>
        (dependencies_before self).2.2.false, dependencies_nodup nodeId⟩
    have inside : nodeId :: plan.dependencies nodeId ⊆ plan.nodeIds := by
      intro other listed
      rcases List.mem_cons.mp listed with rfl | listed
      · exact (dependencies_before member).2.1
      · exact (dependencies_before listed).1
    have bounded := (List.subperm_of_subset distinct inside).length_le
    have limit := plan.checked.2.1
    simp only [List.length_cons] at bounded
    show _ ≤ maxExecutionPlanNodes - 1
    omega

theorem place_lt {nodeId : NodeId} (known : nodeId ∈ plan.nodeIds) :
    plan.place nodeId < plan.nodeIds.length :=
  List.idxOf_lt_length_iff.mpr known

/-- The node at a place is the only one there. -/
theorem place_eq_iff {nodeId : NodeId} {k : Nat}
    (known : nodeId ∈ plan.nodeIds) :
    plan.place nodeId = k ↔ plan.nodeIds[k]? = some nodeId := by
  constructor
  · rintro rfl
    rw [List.getElem?_eq_some_iff]
    exact ⟨place_lt known, List.getElem_idxOf (place_lt known)⟩
  · intro present
    rw [List.getElem?_eq_some_iff] at present
    rcases present with ⟨inside, rfl⟩
    exact plan.distinct.idxOf_getElem k inside

theorem mem_take_iff {nodeId : NodeId} {k : Nat}
    (known : nodeId ∈ plan.nodeIds) :
    nodeId ∈ plan.nodeIds.take k ↔ plan.place nodeId < k :=
  List.mem_take_iff_idxOf_lt known

/-- The nodes in front of a place. -/
theorem filter_place_lt (k : Nat) :
    (plan.nodeIds.filter fun nodeId => plan.place nodeId < k) =
      plan.nodeIds.take k := by
  have split := List.take_append_drop k plan.nodeIds
  have front : (plan.nodeIds.take k).filter
      (fun nodeId => decide (plan.place nodeId < k)) = plan.nodeIds.take k := by
    rw [List.filter_eq_self]
    intro nodeId member
    exact decide_eq_true ((mem_take_iff (List.mem_of_mem_take member)).mp member)
  have back : (plan.nodeIds.drop k).filter
      (fun nodeId => decide (plan.place nodeId < k)) = [] := by
    rw [List.filter_eq_nil_iff]
    intro nodeId member before
    have inFront := (mem_take_iff (List.mem_of_mem_drop member)).mpr
      (of_decide_eq_true before)
    exact List.disjoint_take_drop plan.distinct (Nat.le_refl k) inFront member
  calc (plan.nodeIds.filter fun nodeId => plan.place nodeId < k)
      = (plan.nodeIds.take k ++ plan.nodeIds.drop k).filter
          (fun nodeId => decide (plan.place nodeId < k)) := by rw [split]
    _ = plan.nodeIds.take k := by
      rw [List.filter_append, front, back, List.append_nil]

end ExecutionPlan

/-! ## Positions -/

/-- What the first node that has not succeeded is doing. -/
inductive Activity where
  | idle
  | running
  | failed
deriving DecidableEq

/-- How many nodes have succeeded, and what the next one is doing. -/
structure Position where
  count : Nat
  activity : Activity
deriving DecidableEq

def Activity.status : Activity → ScheduledNodeStatus
  | .idle => .ready
  | .running => .running
  | .failed => .failed

theorem Activity.status_eq_failed {activity : Activity} :
    activity.status = .failed ↔ activity = .failed := by
  cases activity <;> simp [Activity.status]

theorem Activity.status_eq_running {activity : Activity} :
    activity.status = .running ↔ activity = .running := by
  cases activity <;> simp [Activity.status]

namespace Position

/-- A busy node is a node of the plan. -/
def Fits (plan : ExecutionPlan) (position : Position) : Prop :=
  position.count ≤ plan.nodeIds.length ∧
    (position.activity ≠ .idle → position.count < plan.nodeIds.length)

end Position

/-- The dependencies of a node that are not among the first `k` nodes. -/
def unsatisfied (plan : ExecutionPlan) (k : Nat) (nodeId : NodeId) :
    List NodeId :=
  (plan.dependencies nodeId).filter fun dependencyId =>
    k ≤ plan.place dependencyId

/-- Ready once nothing is left to wait for. -/
def waitingStatus (plan : ExecutionPlan) (k : Nat) (nodeId : NodeId) :
    ScheduledNodeStatus :=
  if unsatisfied plan k nodeId = [] then .ready else .blocked

namespace Position

variable {plan : ExecutionPlan} {position : Position}

/-- The status of a node at a position. -/
def nodeStatus (plan : ExecutionPlan) (position : Position)
    (nodeId : NodeId) : ScheduledNodeStatus :=
  if plan.place nodeId < position.count then .succeeded
  else if plan.place nodeId = position.count then position.activity.status
  else waitingStatus plan position.count nodeId

/-- The status of the whole scheduler at a position. -/
def schedulerStatus (plan : ExecutionPlan) (position : Position) :
    SchedulerStatus :=
  if position.activity = .failed then .failed
  else if position.count = plan.nodeIds.length then .succeeded
  else .active

/-- What a state says of one node. -/
def entry (plan : ExecutionPlan) (position : Position) (nodeId : NodeId) :
    NodeId × ScheduledNodeStatus × List NodeId :=
  (nodeId, position.nodeStatus plan nodeId,
    unsatisfied plan position.count nodeId)

end Position

/-- The identity, the status and the remaining dependencies of a node. -/
def ScheduledNode.entry (node : ScheduledNode) :
    NodeId × ScheduledNodeStatus × List NodeId :=
  (node.nodeId, node.status, node.remainingDependencyIds)

theorem ScheduledNode.entry_injective :
    Function.Injective ScheduledNode.entry := by
  intro left right same
  cases left
  cases right
  simp only [ScheduledNode.entry, Prod.mk.injEq] at same
  rcases same with ⟨rfl, rfl, rfl⟩
  rfl

/-- The state shows the plan at a position. -/
structure Shows (plan : ExecutionPlan) (position : Position)
    (state : SchedulerState) : Prop where
  entries : state.nodes.map ScheduledNode.entry =
    plan.nodeIds.map (position.entry plan)
  status : state.status = position.schedulerStatus plan
  fingerprint : state.planFingerprint = plan.fingerprint
  version : state.version = schedulerStateVersion

/-- A position has one state. -/
theorem Shows.unique {plan : ExecutionPlan} {position : Position}
    {left right : SchedulerState} (shows_ : Shows plan position left)
    (also : Shows plan position right) : left = right := by
  have nodes : left.nodes = right.nodes :=
    List.map_injective_iff.mpr ScheduledNode.entry_injective
      (shows_.entries.trans also.entries.symm)
  have status := shows_.status.trans also.status.symm
  have fingerprint := shows_.fingerprint.trans also.fingerprint.symm
  have version := shows_.version.trans also.version.symm
  cases left
  cases right
  simp only at nodes status fingerprint version
  subst nodes status fingerprint version
  rfl

/-! ## What a position says of every node -/

section Statuses

variable {plan : ExecutionPlan} {position : Position} {nodeId : NodeId}

theorem mem_unsatisfied {k : Nat} {dependencyId : NodeId} :
    dependencyId ∈ unsatisfied plan k nodeId ↔
      dependencyId ∈ plan.dependencies nodeId ∧ k ≤ plan.place dependencyId := by
  simp [unsatisfied]

/-- The first `k + 1` nodes wait for nothing once `k` have succeeded. -/
theorem unsatisfied_eq_nil {k : Nat} (reached : plan.place nodeId ≤ k) :
    unsatisfied plan k nodeId = [] := by
  rw [List.eq_nil_iff_forall_not_mem]
  intro dependencyId member
  rcases mem_unsatisfied.mp member with ⟨depends, behind⟩
  have before := (ExecutionPlan.dependencies_before depends).2.2
  omega

theorem waitingStatus_of_reached {k : Nat} (reached : plan.place nodeId ≤ k) :
    waitingStatus plan k nodeId = .ready :=
  if_pos (unsatisfied_eq_nil reached)

theorem waitingStatus_cases (plan : ExecutionPlan) (k : Nat)
    (nodeId : NodeId) :
    waitingStatus plan k nodeId = .ready ∨
      waitingStatus plan k nodeId = .blocked := by
  unfold waitingStatus
  split
  · exact .inl rfl
  · exact .inr rfl

theorem waitingStatus_eq_blocked {k : Nat} :
    waitingStatus plan k nodeId = .blocked ↔ unsatisfied plan k nodeId ≠ [] := by
  unfold waitingStatus
  split
  next empty => simp [empty]
  next waits => simp [waits]

theorem nodeStatus_succeeded :
    position.nodeStatus plan nodeId = .succeeded ↔
      plan.place nodeId < position.count := by
  unfold Position.nodeStatus
  split
  next before => simp [before]
  next notBefore =>
    refine iff_of_false ?_ notBefore
    split
    · cases position.activity <;> exact ScheduledNodeStatus.noConfusion
    · rcases waitingStatus_cases plan position.count nodeId with
        waits | waits <;> rw [waits] <;> exact ScheduledNodeStatus.noConfusion

theorem nodeStatus_frontier (here : plan.place nodeId = position.count) :
    position.nodeStatus plan nodeId = position.activity.status := by
  rw [Position.nodeStatus, if_neg (by omega), if_pos here]

theorem nodeStatus_behind (behind : position.count < plan.place nodeId) :
    position.nodeStatus plan nodeId =
      waitingStatus plan position.count nodeId := by
  rw [Position.nodeStatus, if_neg (by omega), if_neg (by omega)]

theorem nodeStatus_blocked :
    position.nodeStatus plan nodeId = .blocked ↔
      unsatisfied plan position.count nodeId ≠ [] := by
  rcases lt_trichotomy (plan.place nodeId) position.count with
    before | here | behind
  · rw [nodeStatus_succeeded.mpr before, unsatisfied_eq_nil before.le]
    simp
  · rw [nodeStatus_frontier here, unsatisfied_eq_nil here.le]
    cases position.activity <;> simp [Activity.status]
  · rw [nodeStatus_behind behind]
    exact waitingStatus_eq_blocked

/-- A busy status marks the node at the frontier. -/
theorem nodeStatus_eq_activity {status : ScheduledNodeStatus}
    (busy : status = .running ∨ status = .failed) :
    position.nodeStatus plan nodeId = status ↔
      plan.place nodeId = position.count ∧ position.activity.status = status := by
  rcases lt_trichotomy (plan.place nodeId) position.count with
    before | here | behind
  · rw [nodeStatus_succeeded.mpr before]
    refine iff_of_false ?_ (by omega)
    rintro rfl
    rcases busy with impossible | impossible <;> cases impossible
  · rw [nodeStatus_frontier here]
    simp [here]
  · rw [nodeStatus_behind behind]
    refine iff_of_false ?_ (by omega)
    rcases waitingStatus_cases plan position.count nodeId with
      waits | waits <;> rw [waits] <;> rintro rfl <;>
      rcases busy with impossible | impossible <;> cases impossible

theorem unsatisfied_nodup (k : Nat) : (unsatisfied plan k nodeId).Nodup :=
  (ExecutionPlan.dependencies_nodup nodeId).filter _

theorem unsatisfied_sorted (k : Nat) :
    sortedBy (fun dependencyId => dependencyId.value)
      (unsatisfied plan k nodeId) = unsatisfied plan k nodeId :=
  sortedBy_of_pairwise ((ExecutionPlan.dependencies_pairwise nodeId).filter _)

/-- What a position says of a node is a valid node. -/
theorem validateScheduledNode_entry (plan : ExecutionPlan)
    (position : Position) (nodeId : NodeId) :
    validateScheduledNode nodeId (position.nodeStatus plan nodeId)
      (unsatisfied plan position.count nodeId) = .ok () := by
  rw [validateScheduledNode_eq_ok]
  refine ⟨unsatisfied_nodup _, ?_, ?_, nodeStatus_blocked⟩
  · exact (List.length_filter_le _ _).trans ExecutionPlan.dependencies_length
  · intro self
    exact (ExecutionPlan.dependencies_before (mem_unsatisfied.mp self).1).2.2.false

theorem ScheduledNode.create_eq_ok {status : ScheduledNodeStatus}
    {remaining : List NodeId}
    (valid : validateScheduledNode nodeId status remaining = .ok ()) :
    ∃ node, ScheduledNode.create nodeId status remaining = .ok node ∧
      node.entry = (nodeId, status,
        sortedBy (fun dependencyId => dependencyId.value) remaining) := by
  unfold ScheduledNode.create
  split
  next error raised =>
    rw [valid] at raised
    cases raised
  next => exact ⟨_, rfl, rfl⟩

theorem ScheduledNode.create_entry (plan : ExecutionPlan)
    (position : Position) (nodeId : NodeId) :
    ∃ node, ScheduledNode.create nodeId (position.nodeStatus plan nodeId)
        (unsatisfied plan position.count nodeId) = .ok node ∧
      node.entry = position.entry plan nodeId := by
  rcases ScheduledNode.create_eq_ok
    (validateScheduledNode_entry plan position nodeId) with
    ⟨node, created, same⟩
  rw [unsatisfied_sorted] at same
  exact ⟨node, created, same⟩

end Statuses

/-! ## The state at a position -/

section States

variable {plan : ExecutionPlan} {position : Position}
  {nodes : List ScheduledNode}

/-- What the nodes show, node by node. -/
theorem withStatus_of_entries {entry : NodeId → ScheduledNodeStatus × List NodeId}
    {nodeIds : List NodeId}
    (entries : nodes.map ScheduledNode.entry =
      nodeIds.map fun nodeId => (nodeId, entry nodeId))
    (status : ScheduledNodeStatus) :
    withStatus nodes status =
      nodeIds.filter fun nodeId => (entry nodeId).1 == status := by
  have filtered : (nodes.filter fun node => node.status == status).map
      ScheduledNode.entry =
      (nodeIds.filter fun nodeId => (entry nodeId).1 == status).map
        fun nodeId => (nodeId, entry nodeId) := by
    have whole := congrArg
      (List.filter fun item : NodeId × ScheduledNodeStatus × List NodeId =>
        item.2.1 == status) entries
    rw [List.filter_map, List.filter_map] at whole
    exact whole
  calc withStatus nodes status
      = ((nodes.filter fun node => node.status == status).map
          ScheduledNode.entry).map Prod.fst := by
        rw [List.map_map]
        rfl
    _ = nodeIds.filter fun nodeId => (entry nodeId).1 == status := by
        rw [filtered, List.map_map]
        exact List.map_id _

/-- A node that the plan has not completed stands at the frontier. -/
theorem frontier_present (fits : position.Fits plan)
    (unfinished : position.count ≠ plan.nodeIds.length) :
    ∃ frontier, plan.nodeIds[position.count]? = some frontier ∧
      frontier ∈ plan.nodeIds ∧ plan.place frontier = position.count := by
  have inside := Nat.lt_of_le_of_ne fits.1 unfinished
  have present := List.getElem?_eq_getElem inside
  have member := List.getElem_mem inside
  exact ⟨_, present, member, (ExecutionPlan.place_eq_iff member).mpr present⟩

section Entries

variable (entries : nodes.map ScheduledNode.entry =
  plan.nodeIds.map (position.entry plan))

include entries

theorem nodeIds_of_entries :
    (nodes.map fun node => node.nodeId) = plan.nodeIds := by
  calc (nodes.map fun node => node.nodeId)
      = (nodes.map ScheduledNode.entry).map Prod.fst := by
        rw [List.map_map]
        rfl
    _ = plan.nodeIds := by
        rw [entries, List.map_map]
        exact List.map_id _

theorem withStatus_succeeded :
    withStatus nodes .succeeded = plan.nodeIds.take position.count := by
  rw [withStatus_of_entries entries, ← ExecutionPlan.filter_place_lt]
  apply List.filter_congr
  intro nodeId _
  exact decide_eq_decide.mpr nodeStatus_succeeded

/-- At most the frontier is busy. -/
theorem withStatus_busy {status : ScheduledNodeStatus}
    (busy : status = .running ∨ status = .failed) :
    withStatus nodes status =
      if position.activity.status = status then
        plan.nodeIds[position.count]?.toList
      else [] := by
  rw [withStatus_of_entries entries]
  split
  next active =>
    cases present : plan.nodeIds[position.count]? with
    | none =>
        rw [Option.toList_none, List.filter_eq_nil_iff]
        intro nodeId known shown
        have here := ((nodeStatus_eq_activity busy).mp (eq_of_beq shown)).1
        rw [(ExecutionPlan.place_eq_iff known).mp here] at present
        cases present
    | some frontier =>
        have member := List.mem_of_getElem? present
        have only : (plan.nodeIds.filter fun nodeId =>
            position.nodeStatus plan nodeId == status) =
            plan.nodeIds.filter (· == frontier) := by
          apply List.filter_congr
          intro nodeId known
          rw [Bool.eq_iff_iff, beq_iff_eq, beq_iff_eq,
            nodeStatus_eq_activity busy, ExecutionPlan.place_eq_iff known,
            present, Option.some.injEq]
          exact ⟨fun both => both.1.symm, fun same => ⟨same.symm, active⟩⟩
        exact only.trans (by
          rw [List.filter_beq, List.count_eq_one_of_mem plan.distinct member]
          rfl)
  next quiet =>
    rw [List.filter_eq_nil_iff]
    intro nodeId _ shown
    exact quiet ((nodeStatus_eq_activity busy).mp (eq_of_beq shown)).2

theorem entry_of_mem {node : ScheduledNode} (member : node ∈ nodes) :
    node.nodeId ∈ plan.nodeIds ∧
      node.entry = position.entry plan node.nodeId := by
  have shown : node.entry ∈ plan.nodeIds.map (position.entry plan) :=
    entries ▸ List.mem_map_of_mem member
  rcases List.mem_map.mp shown with ⟨nodeId, known, same⟩
  have identity : nodeId = node.nodeId := congrArg Prod.fst same
  subst identity
  exact ⟨known, same.symm⟩

theorem mem_of_entry {nodeId : NodeId} (known : nodeId ∈ plan.nodeIds) :
    ∃ node ∈ nodes, node.entry = position.entry plan nodeId := by
  have shown : position.entry plan nodeId ∈ nodes.map ScheduledNode.entry :=
    entries ▸ List.mem_map_of_mem known
  exact List.mem_map.mp shown

/-- The nodes that are ready begin at an idle frontier. -/
theorem withStatus_ready {frontier : NodeId}
    (idle : position.activity = .idle)
    (present : plan.nodeIds[position.count]? = some frontier) :
    ∃ later, withStatus nodes .ready = frontier :: later := by
  rcases List.getElem?_eq_some_iff.mp present with ⟨inside, here⟩
  have split : plan.nodeIds = plan.nodeIds.take position.count ++
      frontier :: plan.nodeIds.drop (position.count + 1) := by
    rw [← here, ← List.drop_eq_getElem_cons inside, List.take_append_drop]
  have member := List.mem_of_getElem? present
  have ready : position.nodeStatus plan frontier = .ready := by
    rw [nodeStatus_frontier ((ExecutionPlan.place_eq_iff member).mpr present),
      idle]
    rfl
  have front : (plan.nodeIds.take position.count).filter
      (fun nodeId => position.nodeStatus plan nodeId == .ready) = [] := by
    rw [List.filter_eq_nil_iff]
    intro nodeId inFront shown
    have before := (ExecutionPlan.mem_take_iff
      (List.mem_of_mem_take inFront)).mp inFront
    rw [nodeStatus_succeeded.mpr before] at shown
    cases shown
  refine ⟨(plan.nodeIds.drop (position.count + 1)).filter
    fun nodeId => position.nodeStatus plan nodeId == .ready, ?_⟩
  rw [withStatus_of_entries entries]
  show plan.nodeIds.filter
    (fun nodeId => position.nodeStatus plan nodeId == .ready) = _
  calc plan.nodeIds.filter
        (fun nodeId => position.nodeStatus plan nodeId == .ready)
      = (plan.nodeIds.take position.count ++
          frontier :: plan.nodeIds.drop (position.count + 1)).filter
          (fun nodeId => position.nodeStatus plan nodeId == .ready) := by
        rw [← split]
    _ = _ := by
        rw [List.filter_append, front, List.nil_append,
          List.filter_cons_of_pos (by rw [ready]; rfl)]

end Entries

theorem withStatus_eq_nil {status : ScheduledNodeStatus} :
    withStatus nodes status = [] ↔ ∀ node ∈ nodes, node.status ≠ status := by
  simp [withStatus]

/-- What a scheduler state checks. -/
theorem validateSchedulerState_eq_ok {status : SchedulerStatus}
    {version : Int} :
    validateSchedulerState status nodes version = .ok () ↔
      version = schedulerStateVersion ∧ nodes ≠ [] ∧
      nodes.length ≤ maxExecutionPlanNodes ∧
      (nodes.map fun node => node.nodeId).Nodup ∧
      (∀ node ∈ nodes, ∀ dependencyId ∈ node.remainingDependencyIds,
        dependencyId ∈ nodes.map fun node => node.nodeId) ∧
      (withStatus nodes .running).length ≤ 1 ∧
      match status with
      | .active =>
          withStatus nodes .failed = [] ∧
            (∃ node ∈ nodes, node.status ≠ .succeeded) ∧
            (withStatus nodes .running ≠ [] ∨ withStatus nodes .ready ≠ [])
      | .succeeded => ∀ node ∈ nodes, node.status = .succeeded
      | .failed =>
          (withStatus nodes .failed).length = 1 ∧
            withStatus nodes .running = [] := by
  cases status <;>
    simp [validateSchedulerState, check_bind_eq_ok, require_eq_ok, withStatus]

/-- The nodes of a position make up a valid state. -/
theorem validateSchedulerState_entries (fits : position.Fits plan)
    (entries : nodes.map ScheduledNode.entry =
      plan.nodeIds.map (position.entry plan)) :
    validateSchedulerState (position.schedulerStatus plan) nodes
      schedulerStateVersion = .ok () := by
  have identities := nodeIds_of_entries entries
  have lengths : nodes.length = plan.nodeIds.length := by
    rw [← identities, List.length_map]
  rw [validateSchedulerState_eq_ok, identities, lengths]
  refine ⟨rfl, ?_, plan.checked.2.1, plan.distinct, ?_, ?_, ?_⟩
  · rintro rfl
    exact plan.checked.1 (List.length_eq_zero_iff.mp lengths.symm)
  · intro node member dependencyId waits
    have remaining : node.remainingDependencyIds =
        unsatisfied plan position.count node.nodeId :=
      congrArg (fun item => item.2.2) (entry_of_mem entries member).2
    rw [remaining] at waits
    exact (ExecutionPlan.dependencies_before (mem_unsatisfied.mp waits).1).1
  · rw [withStatus_busy entries (.inl rfl)]
    split
    · cases plan.nodeIds[position.count]? <;> simp
    · exact Nat.zero_le _
  · unfold Position.schedulerStatus
    by_cases failed : position.activity = .failed
    · rcases frontier_present fits
        (fits.2 (by rw [failed]; exact Activity.noConfusion)).ne with
        ⟨frontier, present, _⟩
      rw [if_pos failed]
      show (withStatus nodes .failed).length = 1 ∧
        withStatus nodes .running = []
      rw [withStatus_busy entries (.inr rfl), withStatus_busy entries (.inl rfl),
        failed, present]
      exact ⟨rfl, rfl⟩
    · rw [if_neg failed]
      by_cases finished : position.count = plan.nodeIds.length
      · rw [if_pos finished]
        intro node member
        rcases entry_of_mem entries member with ⟨known, same⟩
        have status : node.status = position.nodeStatus plan node.nodeId :=
          congrArg (fun item => item.2.1) same
        rw [status, nodeStatus_succeeded, finished]
        exact ExecutionPlan.place_lt known
      · rw [if_neg finished]
        rcases frontier_present fits finished with
          ⟨frontier, present, known, here⟩
        refine ⟨?_, ?_, ?_⟩
        · rw [withStatus_busy entries (.inr rfl), if_neg]
          exact fun same => failed (Activity.status_eq_failed.mp same)
        · rcases mem_of_entry entries known with ⟨node, member, same⟩
          refine ⟨node, member, ?_⟩
          have status : node.status = position.nodeStatus plan frontier :=
            congrArg (fun item => item.2.1) same
          rw [status, ne_eq, nodeStatus_succeeded, here]
          exact lt_irrefl _
        · cases active : position.activity with
          | idle =>
              rcases withStatus_ready entries active present with ⟨later, same⟩
              rw [same]
              exact .inr (List.cons_ne_nil _ _)
          | running =>
              rw [withStatus_busy entries (.inl rfl), active, present]
              exact .inl (List.cons_ne_nil _ _)
          | failed => exact (failed active).elim

theorem SchedulerState.create_eq_ok {status : SchedulerStatus}
    (planFingerprint : PlanFingerprint)
    (valid : validateSchedulerState status nodes schedulerStateVersion =
      .ok ()) :
    ∃ state, SchedulerState.create status nodes planFingerprint = .ok state ∧
      state.status = status ∧ state.nodes = nodes ∧
      state.planFingerprint = planFingerprint ∧
      state.version = schedulerStateVersion := by
  unfold SchedulerState.create
  split
  next error raised =>
    rw [valid] at raised
    cases raised
  next => exact ⟨_, rfl, rfl, rfl, rfl, rfl⟩

/-- Nodes that are built as a position says make up its state. -/
theorem Shows.build {α : Type} {values : List α} {nodeId : α → NodeId}
    {construct : α → Except SchedulerError ScheduledNode}
    (fits : position.Fits plan) (identities : values.map nodeId = plan.nodeIds)
    (constructs : ∀ value ∈ values, ∃ node, construct value = .ok node ∧
      node.entry = position.entry plan (nodeId value)) :
    ∃ nodes, values.mapM construct = .ok nodes ∧
      nodes.map ScheduledNode.entry = plan.nodeIds.map (position.entry plan) ∧
      ∃ state, SchedulerState.create (position.schedulerStatus plan) nodes
          plan.fingerprint = .ok state ∧ Shows plan position state := by
  have returns : Returns (values.mapM construct) :=
    returns_mapM.mpr fun value member => by
      rcases constructs value member with ⟨node, built, _⟩
      exact ⟨node, built⟩
  rcases returns with ⟨nodes, built⟩
  have entries : nodes.map ScheduledNode.entry =
      plan.nodeIds.map (position.entry plan) := by
    have kept : nodes.map ScheduledNode.entry =
        values.map fun value => position.entry plan (nodeId value) :=
      mapM_keeps (fun value member node constructed => by
        rcases constructs value member with ⟨same, other, shown⟩
        rw [constructed] at other
        cases other
        exact shown) built
    rw [kept, ← identities, List.map_map]
    rfl
  rcases SchedulerState.create_eq_ok plan.fingerprint
    (validateSchedulerState_entries fits entries) with
    ⟨state, created, status, same, fingerprint, version⟩
  exact ⟨nodes, built, entries, state, created,
    ⟨by rw [same, entries], status, fingerprint, version⟩⟩

end States

/-! ## The calls at a position -/

/-- One call of a tracker. -/
inductive SchedulerCall where
  | start (nodeId : NodeId)
  | succeed (nodeId : NodeId)
  | fail (nodeId : NodeId)
  | pause (nodeId : NodeId)
deriving DecidableEq

/-- What a tracker answers to a call: the tracker with its next state. -/
def DependencyTracker.apply (tracker : DependencyTracker) :
    SchedulerCall → Except SchedulerError DependencyTracker
  | .start nodeId => tracker.start nodeId
  | .succeed nodeId => tracker.succeed nodeId
  | .fail nodeId => tracker.fail nodeId
  | .pause nodeId => tracker.pause nodeId

/-- Where a call leads from a position, when it is allowed there. -/
def Position.answer (plan : ExecutionPlan) (position : Position) :
    SchedulerCall → Option Position
  | .start nodeId =>
      if position.activity = .idle ∧
          plan.nodeIds[position.count]? = some nodeId then
        some ⟨position.count, .running⟩
      else none
  | .succeed nodeId =>
      if position.activity = .running ∧
          plan.nodeIds[position.count]? = some nodeId then
        some ⟨position.count + 1, .idle⟩
      else none
  | .fail nodeId =>
      if position.activity = .running ∧
          plan.nodeIds[position.count]? = some nodeId then
        some ⟨position.count, .failed⟩
      else none
  | .pause nodeId =>
      if position.activity = .running ∧
          plan.nodeIds[position.count]? = some nodeId then
        some ⟨position.count, .idle⟩
      else none

section Calls

variable {plan : ExecutionPlan} {position next : Position}
  {state : SchedulerState} {nodeId frontier : NodeId}

theorem Shows.succeeded (shows_ : Shows plan position state) :
    state.succeededNodeIds = plan.nodeIds.take position.count :=
  withStatus_succeeded shows_.entries

theorem Shows.activeNodeId_eq (shows_ : Shows plan position state) :
    state.activeNodeId =
      if position.activity = .running then plan.nodeIds[position.count]?
      else none := by
  rw [SchedulerState.activeNodeId, withStatus_busy shows_.entries (.inl rfl)]
  simp only [Activity.status_eq_running]
  split
  · cases plan.nodeIds[position.count]? <;> rfl
  · rfl

theorem Shows.active_iff (fits : position.Fits plan)
    (shows_ : Shows plan position state) :
    state.status = .active ↔
      position.activity ≠ .failed ∧ position.count < plan.nodeIds.length := by
  rw [shows_.status, Position.schedulerStatus]
  have within := fits.1
  split
  next failed => simp [failed]
  next sound =>
    split
    next finished => simp [finished]
    next unfinished => simp [sound, Nat.lt_of_le_of_ne within unfinished]

/-- The next node is the idle frontier. -/
theorem Shows.nextReadyNode_eq (fits : position.Fits plan)
    (shows_ : Shows plan position state) :
    DependencyTracker.nextReadyNode ⟨plan, state⟩ =
      .ok (if position.activity = .idle then plan.nodeIds[position.count]?
        else none) := by
  unfold DependencyTracker.nextReadyNode
  have active := shows_.active_iff fits
  have running := shows_.activeNodeId_eq
  cases activity : position.activity with
  | idle =>
      by_cases unfinished : position.count < plan.nodeIds.length
      · have present := List.getElem?_eq_getElem unfinished
        rcases withStatus_ready shows_.entries activity present with
          ⟨later, same⟩
        rw [if_neg (not_not.mpr (active.mpr ⟨by simp [activity], unfinished⟩)),
          if_neg (by simp [running, activity]), SchedulerState.readyNodeIds,
          same, if_pos rfl, present]
      · rw [if_pos (fun isActive => unfinished (active.mp isActive).2),
          if_pos rfl, List.getElem?_eq_none (Nat.le_of_not_lt unfinished)]
  | running =>
      have unfinished := fits.2 (by simp [activity])
      have present := List.getElem?_eq_getElem unfinished
      rw [if_neg (not_not.mpr (active.mpr ⟨by simp [activity], unfinished⟩)),
        if_pos (by simp [running, activity, unfinished]), if_neg (by simp)]
  | failed =>
      rw [if_pos (fun isActive => (active.mp isActive).1 activity),
        if_neg (by simp)]

theorem Shows.statuses_eq (shows_ : Shows plan position state) :
    state.statuses = plan.nodeIds.map fun nodeId =>
      (nodeId, position.nodeStatus plan nodeId) := by
  have projected := congrArg (List.map fun item : NodeId ×
    ScheduledNodeStatus × List NodeId => (item.1, item.2.1)) shows_.entries
  rw [List.map_map, List.map_map] at projected
  exact projected

/-- The statuses with the one of the frontier replaced. -/
def replacedStatus (plan : ExecutionPlan) (position : Position)
    (frontier : NodeId) (target : ScheduledNodeStatus) (nodeId : NodeId) :
    ScheduledNodeStatus :=
  if nodeId = frontier then target else position.nodeStatus plan nodeId

theorem Shows.statusOf_alter (shows_ : Shows plan position state)
    (target : ScheduledNodeStatus) (known : nodeId ∈ plan.nodeIds) :
    statusOf (alter frontier (fun _ => target) state.statuses) nodeId =
      .ok (replacedStatus plan position frontier target nodeId) := by
  unfold statusOf replacedStatus
  by_cases same : nodeId = frontier
  · subst same
    rw [lookup_alter_self, if_pos rfl]
  · rw [lookup_alter_ne same, shows_.statuses_eq, lookup_map_self _ known,
      if_neg same]

/-- Dependencies that succeeded are the ones in front. -/
theorem remainingDependencies_eq {statuses : List (NodeId × ScheduledNodeStatus)}
    {status : NodeId → ScheduledNodeStatus} {k : Nat}
    (agrees : ∀ nodeId ∈ plan.nodeIds, statusOf statuses nodeId =
      .ok (status nodeId))
    (succeeded : ∀ nodeId ∈ plan.nodeIds,
      status nodeId = .succeeded ↔ plan.place nodeId < k)
    (nodeId : NodeId) :
    remainingDependencies plan statuses nodeId =
      .ok (unsatisfied plan k nodeId) := by
  unfold remainingDependencies unsatisfied
  apply filterM_eq_ok
  intro dependencyId depends
  have known := (ExecutionPlan.dependencies_before depends).1
  rw [agrees dependencyId known, ok_bind]
  congr 1
  rw [Bool.eq_iff_iff, bne_iff_ne, decide_eq_true_eq, ne_eq,
    succeeded dependencyId known, not_lt]

/-- Replacing the status of the frontier leads to the position that agrees. -/
theorem Shows.replaceStatus (shows_ : Shows plan position state)
    (fits : next.Fits plan) {target : ScheduledNodeStatus}
    (failed : target = .failed ↔ next.activity = .failed)
    (succeeded : ∀ nodeId ∈ plan.nodeIds,
      replacedStatus plan position frontier target nodeId = .succeeded ↔
        plan.place nodeId < next.count)
    (statuses : ∀ nodeId ∈ plan.nodeIds,
      next.nodeStatus plan nodeId =
        if replacedStatus plan position frontier target nodeId = .blocked ∨
            replacedStatus plan position frontier target nodeId = .ready then
          waitingStatus plan next.count nodeId
        else replacedStatus plan position frontier target nodeId) :
    ∃ replaced, DependencyTracker.replaceStatus ⟨plan, state⟩ frontier target =
      .ok replaced ∧ Shows plan next replaced := by
  have lookups : ∀ nodeId ∈ plan.nodeIds, statusOf (alter frontier
      (fun _ => target) state.statuses) nodeId =
        .ok (replacedStatus plan position frontier target nodeId) :=
    fun nodeId known => shows_.statusOf_alter target known
  have constructs : ∀ nodeId ∈ plan.nodeIds, ∃ node,
      replacedNode plan (alter frontier (fun _ => target) state.statuses)
        nodeId = .ok node ∧ node.entry = next.entry plan nodeId := by
    intro nodeId known
    have waits : (if next.nodeStatus plan nodeId = .blocked then
        unsatisfied plan next.count nodeId else []) =
        unsatisfied plan next.count nodeId := by
      split
      next => rfl
      next unblocked =>
        exact (not_not.mp (unblocked ∘ nodeStatus_blocked.mpr)).symm
    unfold replacedNode
    rw [lookups nodeId known, ok_bind,
      remainingDependencies_eq lookups succeeded, ok_bind]
    simp only [List.isEmpty_iff]
    have status := statuses nodeId known
    unfold waitingStatus at status
    rw [← status, waits]
    exact ScheduledNode.create_entry plan next nodeId
  have identities : plan.nodeIds.map (fun nodeId => nodeId) = plan.nodeIds :=
    List.map_id _
  rcases Shows.build fits identities constructs with
    ⟨nodes, built, entries, replaced, created, shown⟩
  refine ⟨replaced, ?_, shown⟩
  have all : (nodes.all fun node => node.status == .succeeded) =
      decide (next.count = plan.nodeIds.length) := by
    rw [Bool.eq_iff_iff, List.all_eq_true, decide_eq_true_eq]
    constructor
    · intro succeededAll
      by_contra unfinished
      rcases frontier_present fits unfinished with ⟨last, _, known, here⟩
      rcases mem_of_entry entries known with ⟨node, member, same⟩
      have status : node.status = next.nodeStatus plan last :=
        congrArg (fun item => item.2.1) same
      have done := eq_of_beq (succeededAll node member)
      rw [status, nodeStatus_succeeded] at done
      omega
    · intro finished node member
      rcases entry_of_mem entries member with ⟨known, same⟩
      have status : node.status = next.nodeStatus plan node.nodeId :=
        congrArg (fun item => item.2.1) same
      rw [beq_iff_eq, status, nodeStatus_succeeded, finished]
      exact ExecutionPlan.place_lt known
  unfold DependencyTracker.replaceStatus
  show (plan.nodeIds.mapM (replacedNode plan _) >>= _) = _
  rw [built, ok_bind, all]
  simp only [decide_eq_true_eq, failed]
  exact created

theorem replacedStatus_cases (known : nodeId ∈ plan.nodeIds)
    (present : plan.nodeIds[position.count]? = some frontier)
    (target : ScheduledNodeStatus) :
    (plan.place nodeId < position.count ∧
      replacedStatus plan position frontier target nodeId = .succeeded) ∨
    (plan.place nodeId = position.count ∧
      replacedStatus plan position frontier target nodeId = target) ∨
    (position.count < plan.place nodeId ∧
      replacedStatus plan position frontier target nodeId =
        waitingStatus plan position.count nodeId) := by
  have isFrontier : nodeId = frontier ↔ plan.place nodeId = position.count := by
    rw [ExecutionPlan.place_eq_iff known, present, Option.some.injEq]
    exact eq_comm
  unfold replacedStatus
  rcases lt_trichotomy (plan.place nodeId) position.count with
    before | here | behind
  · exact .inl ⟨before, by rw [if_neg (fun same => before.ne
      (isFrontier.mp same)), nodeStatus_succeeded.mpr before]⟩
  · exact .inr (.inl ⟨here, if_pos (isFrontier.mpr here)⟩)
  · exact .inr (.inr ⟨behind, by rw [if_neg (fun same => behind.ne'
      (isFrontier.mp same)), nodeStatus_behind behind]⟩)

/-- Behind an idle frontier every node waits or is ready. -/
theorem nodeStatus_idle (idle : next.activity = .idle)
    (behind : next.count ≤ plan.place nodeId) :
    next.nodeStatus plan nodeId = waitingStatus plan next.count nodeId := by
  rcases behind.eq_or_lt with here | later
  · rw [nodeStatus_frontier here.symm, idle,
      waitingStatus_of_reached here.symm.le]
    rfl
  · exact nodeStatus_behind later

/-- A status that waits is the only one that is computed again. -/
theorem recomputed_waiting {k m : Nat} :
    (if waitingStatus plan k nodeId = .blocked ∨
        waitingStatus plan k nodeId = .ready then
      waitingStatus plan m nodeId
    else waitingStatus plan k nodeId) = waitingStatus plan m nodeId :=
  if_pos (waitingStatus_cases plan k nodeId).symm

/-- The frontier starts or fails: the other nodes stand as before. -/
theorem Shows.replaceStatus_busy (shows_ : Shows plan position state)
    (fits : position.Fits plan)
    (present : plan.nodeIds[position.count]? = some frontier)
    {activity : Activity} (busy : activity ≠ .idle) :
    ∃ replaced, DependencyTracker.replaceStatus ⟨plan, state⟩ frontier
        activity.status = .ok replaced ∧
      Shows plan ⟨position.count, activity⟩ replaced := by
  have inside := (List.getElem?_eq_some_iff.mp present).1
  have target : activity.status = .running ∨ activity.status = .failed := by
    cases activity with
    | idle => exact (busy rfl).elim
    | running => exact .inl rfl
    | failed => exact .inr rfl
  have stays : Position.Fits plan ⟨position.count, activity⟩ :=
    ⟨fits.1, fun _ => inside⟩
  apply shows_.replaceStatus stays Activity.status_eq_failed
  · intro nodeId known
    rcases replacedStatus_cases known present activity.status with
      ⟨before, same⟩ | ⟨here, same⟩ | ⟨behind, same⟩
    · simp [same, before]
    · rw [same, here]
      rcases target with status | status <;> simp [status]
    · rw [same]
      refine iff_of_false ?_ (by show ¬_ < position.count; omega)
      rcases waitingStatus_cases plan position.count nodeId with
        waits | waits <;> rw [waits] <;> exact ScheduledNodeStatus.noConfusion
  · intro nodeId known
    rcases replacedStatus_cases known present activity.status with
      ⟨before, same⟩ | ⟨here, same⟩ | ⟨behind, same⟩
    · rw [same]
      exact nodeStatus_succeeded.mpr before
    · rw [same, if_neg]
      · exact nodeStatus_frontier here
      · rcases target with status | status <;> rw [status] <;> simp
    · rw [same, recomputed_waiting]
      exact nodeStatus_behind behind

/-- The frontier succeeds: the next node becomes the frontier. -/
theorem Shows.replaceStatus_succeeded (shows_ : Shows plan position state)
    (present : plan.nodeIds[position.count]? = some frontier) :
    ∃ replaced, DependencyTracker.replaceStatus ⟨plan, state⟩ frontier
        .succeeded = .ok replaced ∧
      Shows plan ⟨position.count + 1, .idle⟩ replaced := by
  have inside := (List.getElem?_eq_some_iff.mp present).1
  have advances : Position.Fits plan ⟨position.count + 1, .idle⟩ :=
    ⟨inside, fun busy => (busy rfl).elim⟩
  apply shows_.replaceStatus advances
  · exact iff_of_false ScheduledNodeStatus.noConfusion Activity.noConfusion
  · intro nodeId known
    show _ ↔ plan.place nodeId < position.count + 1
    rcases replacedStatus_cases known present .succeeded with
      ⟨before, same⟩ | ⟨here, same⟩ | ⟨behind, same⟩
    · exact iff_of_true same (by omega)
    · exact iff_of_true same (by omega)
    · rw [same]
      refine iff_of_false ?_ (by omega)
      rcases waitingStatus_cases plan position.count nodeId with
        waits | waits <;> rw [waits] <;> exact ScheduledNodeStatus.noConfusion
  · intro nodeId known
    rcases replacedStatus_cases known present .succeeded with
      ⟨before, same⟩ | ⟨here, same⟩ | ⟨behind, same⟩
    · rw [same]
      exact nodeStatus_succeeded.mpr (Nat.lt_succ_of_lt before)
    · rw [same]
      exact nodeStatus_succeeded.mpr (Nat.lt_succ_of_le here.le)
    · rw [same, recomputed_waiting]
      exact nodeStatus_idle rfl behind

/-- The running frontier is put back: it is ready again. -/
theorem Shows.paused (shows_ : Shows plan position state)
    (fits : position.Fits plan)
    (present : plan.nodeIds[position.count]? = some frontier) :
    ∃ nodes, (state.nodes.mapM fun node =>
        ScheduledNode.create node.nodeId
          (if node.nodeId = frontier then .ready else node.status)
          node.remainingDependencyIds) = .ok nodes ∧
      ∃ paused, SchedulerState.create .active nodes plan.fingerprint =
          .ok paused ∧ Shows plan ⟨position.count, .idle⟩ paused := by
  have stays : Position.Fits plan ⟨position.count, .idle⟩ :=
    ⟨fits.1, fun busy => (busy rfl).elim⟩
  have inside := (List.getElem?_eq_some_iff.mp present).1
  have active : Position.schedulerStatus plan ⟨position.count, .idle⟩ =
      .active := by
    rw [Position.schedulerStatus, if_neg Activity.noConfusion, if_neg inside.ne]
  have constructs : ∀ node ∈ state.nodes, ∃ built,
      ScheduledNode.create node.nodeId
        (if node.nodeId = frontier then .ready else node.status)
        node.remainingDependencyIds = .ok built ∧
      built.entry = Position.entry plan ⟨position.count, .idle⟩
        node.nodeId := by
    intro node member
    rcases entry_of_mem shows_.entries member with ⟨known, same⟩
    have remaining : node.remainingDependencyIds =
        unsatisfied plan position.count node.nodeId :=
      congrArg (fun item => item.2.2) same
    have status : (if node.nodeId = frontier then .ready else node.status) =
        Position.nodeStatus plan ⟨position.count, .idle⟩ node.nodeId := by
      have shown : node.status = position.nodeStatus plan node.nodeId :=
        congrArg (fun item => item.2.1) same
      rw [shown]
      show replacedStatus plan position frontier .ready node.nodeId = _
      rcases replacedStatus_cases known present .ready with
        ⟨before, shown⟩ | ⟨here, shown⟩ | ⟨behind, shown⟩
      · rw [shown]
        symm
        exact nodeStatus_succeeded.mpr before
      · rw [shown]
        symm
        exact nodeStatus_frontier here
      · rw [shown]
        symm
        exact nodeStatus_behind behind
    rw [status, remaining]
    exact ScheduledNode.create_entry plan ⟨position.count, .idle⟩ node.nodeId
  rcases Shows.build stays (nodeIds_of_entries shows_.entries) constructs with
    ⟨nodes, built, _, paused, created, shown⟩
  rw [active] at created
  exact ⟨nodes, built, paused, created, shown⟩

/-- Only the running frontier may be completed. -/
theorem Shows.requireActiveNode (shows_ : Shows plan position state)
    (fits : position.Fits plan) (nodeId : NodeId) :
    if position.activity = .running ∧
        plan.nodeIds[position.count]? = some nodeId then
      DependencyTracker.requireActiveNode ⟨plan, state⟩ nodeId = .ok ()
    else ∃ error, DependencyTracker.requireActiveNode ⟨plan, state⟩ nodeId =
      .error error ∧ error.isTransition = true := by
  have active := shows_.active_iff fits
  have running := shows_.activeNodeId_eq
  unfold DependencyTracker.requireActiveNode
    DependencyTracker.requireKnownNode
  split
  next allowed =>
    rcases allowed with ⟨busy, present⟩
    have isActive := active.mpr ⟨by simp [busy],
      (List.getElem?_eq_some_iff.mp present).1⟩
    simp only [List.contains_iff_mem.mpr (List.mem_of_getElem? present),
      isActive, running, busy, present, if_true, require_true, ok_bind,
      beq_self_eq_true]
  next refused =>
    cases known : plan.nodeIds.contains nodeId with
    | false => exact ⟨_, rfl, rfl⟩
    | true =>
        by_cases isActive : state.status = .active
        · simp only [require_true, ok_bind, isActive, beq_self_eq_true]
          have other : (state.activeNodeId == some nodeId) = false := by
            rw [beq_eq_false_iff_ne, running]
            intro same
            split at same
            next busy => exact refused ⟨busy, same⟩
            next => cases same
          rw [other]
          exact ⟨_, rfl, rfl⟩
        · have terminal : (state.status == .active) = false := by
            simpa using isActive
          simp only [require_true, ok_bind, terminal]
          exact ⟨_, rfl, rfl⟩

/-- An allowed call leads to the state of the next position. -/
theorem Shows.apply_answer {call : SchedulerCall}
    (shows_ : Shows plan position state) (fits : position.Fits plan)
    (allowed : position.answer plan call = some next) :
    next.Fits plan ∧ ∃ later,
      DependencyTracker.apply ⟨plan, state⟩ call = .ok ⟨plan, later⟩ ∧
        Shows plan next later := by
  have active := shows_.active_iff fits
  have running := shows_.activeNodeId_eq
  cases call with
  | start nodeId =>
      simp only [Position.answer] at allowed
      split at allowed
      next idle =>
        cases allowed
        rcases idle with ⟨idle, present⟩
        have inside := (List.getElem?_eq_some_iff.mp present).1
        rcases shows_.replaceStatus_busy fits present
          (show Activity.running ≠ .idle from Activity.noConfusion) with
          ⟨later, replaced, shown⟩
        refine ⟨⟨fits.1, fun _ => inside⟩, later, ?_, shown⟩
        have isActive := active.mpr ⟨by simp [idle], inside⟩
        have none_ : state.activeNodeId = none := by simp [running, idle]
        have ready := shows_.nextReadyNode_eq fits
        rw [if_pos idle, present] at ready
        simp only [Activity.status] at replaced
        simp only [DependencyTracker.apply, DependencyTracker.start,
          DependencyTracker.requireKnownNode,
          List.contains_iff_mem.mpr (List.mem_of_getElem? present), isActive,
          none_, ready, replaced, require_true, ok_bind, beq_self_eq_true,
          Option.isNone_none]
      next => cases allowed
  | succeed nodeId =>
      simp only [Position.answer] at allowed
      have guard := shows_.requireActiveNode fits nodeId
      split at allowed
      next busy =>
        cases allowed
        rw [if_pos busy] at guard
        have inside := (List.getElem?_eq_some_iff.mp busy.2).1
        rcases shows_.replaceStatus_succeeded busy.2 with
          ⟨later, replaced, shown⟩
        refine ⟨⟨inside, fun none_ => (none_ rfl).elim⟩, later, ?_, shown⟩
        simp only [DependencyTracker.apply, DependencyTracker.succeed, guard,
          replaced, ok_bind]
      next => cases allowed
  | fail nodeId =>
      simp only [Position.answer] at allowed
      have guard := shows_.requireActiveNode fits nodeId
      split at allowed
      next busy =>
        cases allowed
        rw [if_pos busy] at guard
        have inside := (List.getElem?_eq_some_iff.mp busy.2).1
        rcases shows_.replaceStatus_busy fits busy.2
          (show Activity.failed ≠ .idle from Activity.noConfusion) with
          ⟨later, replaced, shown⟩
        refine ⟨⟨fits.1, fun _ => inside⟩, later, ?_, shown⟩
        simp only [Activity.status] at replaced
        simp only [DependencyTracker.apply, DependencyTracker.fail, guard,
          replaced, ok_bind]
      next => cases allowed
  | pause nodeId =>
      simp only [Position.answer] at allowed
      split at allowed
      next busy =>
        cases allowed
        rcases busy with ⟨busy, present⟩
        have inside := (List.getElem?_eq_some_iff.mp present).1
        rcases shows_.paused fits present with
          ⟨nodes, built, later, created, shown⟩
        refine ⟨⟨fits.1, fun none_ => (none_ rfl).elim⟩, later, ?_, shown⟩
        have isActive := active.mpr ⟨by simp [busy], inside⟩
        have current : state.activeNodeId = some nodeId := by
          rw [running, if_pos busy, present]
        simp only [DependencyTracker.apply, DependencyTracker.pause, isActive,
          current, built, created, require_true, ok_bind, beq_self_eq_true]
      next => cases allowed

/-- Any other call is refused as a transition and builds no state. -/
theorem Shows.apply_refused {call : SchedulerCall}
    (shows_ : Shows plan position state) (fits : position.Fits plan)
    (refused : position.answer plan call = none) :
    ∃ error, DependencyTracker.apply ⟨plan, state⟩ call = .error error ∧
      error.isTransition = true := by
  have active := shows_.active_iff fits
  have running := shows_.activeNodeId_eq
  cases call with
  | start nodeId =>
      simp only [Position.answer] at refused
      split at refused
      next => cases refused
      next busy =>
        simp only [DependencyTracker.apply, DependencyTracker.start,
          DependencyTracker.requireKnownNode]
        cases plan.nodeIds.contains nodeId with
        | false => exact ⟨_, rfl, rfl⟩
        | true =>
            cases state.status == .active with
            | false => exact ⟨_, rfl, rfl⟩
            | true =>
                cases state.activeNodeId.isNone with
                | false => exact ⟨_, rfl, rfl⟩
                | true =>
                    simp only [require_true, ok_bind,
                      shows_.nextReadyNode_eq fits]
                    have other : ((if position.activity = .idle then
                        plan.nodeIds[position.count]? else none) ==
                        some nodeId) = false := by
                      rw [beq_eq_false_iff_ne]
                      intro same
                      split at same
                      next idle => exact busy ⟨idle, same⟩
                      next => cases same
                    rw [other]
                    exact ⟨_, rfl, rfl⟩
  | succeed nodeId | fail nodeId =>
      simp only [Position.answer] at refused
      have guard := shows_.requireActiveNode fits nodeId
      split at refused
      next => cases refused
      next idle =>
        rw [if_neg idle] at guard
        rcases guard with ⟨error, raised, kind⟩
        refine ⟨error, ?_, kind⟩
        simp only [DependencyTracker.apply, DependencyTracker.succeed,
          DependencyTracker.fail, raised, error_bind]
  | pause nodeId =>
      simp only [Position.answer] at refused
      split at refused
      next => cases refused
      next idle =>
        simp only [DependencyTracker.apply, DependencyTracker.pause]
        cases state.status == .active with
        | false => exact ⟨_, rfl, rfl⟩
        | true =>
            have other : (state.activeNodeId == some nodeId) = false := by
              rw [beq_eq_false_iff_ne, running]
              intro same
              split at same
              next busy => exact idle ⟨busy, same⟩
              next => cases same
            simp only [require_true, ok_bind, other]
            exact ⟨_, rfl, rfl⟩

/-- A new tracker shows the beginning of the plan. -/
theorem create_shows (plan : ExecutionPlan) :
    ∃ state, DependencyTracker.create plan = .ok ⟨plan, state⟩ ∧
      Position.Fits plan ⟨0, .idle⟩ ∧ Shows plan ⟨0, .idle⟩ state := by
  have fits : Position.Fits plan ⟨0, .idle⟩ :=
    ⟨Nat.zero_le _, fun busy => (busy rfl).elim⟩
  have constructs : ∀ nodeId ∈ plan.nodeIds, ∃ node,
      ScheduledNode.create nodeId
        (if (plan.dependencies nodeId).isEmpty then .ready else .blocked)
        (plan.dependencies nodeId) = .ok node ∧
      node.entry = Position.entry plan ⟨0, .idle⟩ nodeId := by
    intro nodeId _
    have whole : plan.dependencies nodeId = unsatisfied plan 0 nodeId := by
      simp [unsatisfied]
    have status : (if (plan.dependencies nodeId).isEmpty then .ready
        else .blocked) = Position.nodeStatus plan ⟨0, .idle⟩ nodeId := by
      rw [nodeStatus_idle rfl (Nat.zero_le _), whole]
      simp only [List.isEmpty_iff]
      rfl
    rw [status, whole]
    exact ScheduledNode.create_entry plan ⟨0, .idle⟩ nodeId
  have identities : plan.nodeIds.map (fun nodeId => nodeId) = plan.nodeIds :=
    List.map_id _
  rcases Shows.build fits identities constructs with
    ⟨nodes, built, _, state, created, shown⟩
  have active : Position.schedulerStatus plan ⟨0, .idle⟩ = .active := by
    rw [Position.schedulerStatus, if_neg Activity.noConfusion, if_neg]
    exact fun empty => plan.checked.1 (List.length_eq_zero_iff.mp empty.symm)
  rw [active] at created
  refine ⟨state, ?_, fits, shown⟩
  rw [DependencyTracker.create, built, ok_bind, created, ok_bind]

end Calls

end ParityGrid.Application.Sequential
