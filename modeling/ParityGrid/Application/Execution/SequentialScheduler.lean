import ParityGrid.Application.Execution.FinalizationEvidence
import ParityGrid.Foundation.Transition

/-!
# The sequential scheduler

A compiled plan lists its nodes in a topological order.  The dependency tracker
runs them one after another: its state names what every node waits for, and
each call rebuilds that state from the plan.
-/

namespace ParityGrid.Application.Sequential

open ParityGrid.Foundation
open ParityGrid.Domain

/-! ## The plan -/

def maxExecutionPlanNodes : Nat := 256

def maxExecutionPlanEdges : Nat := 4096

/-- `ExecutionPlan.__post_init__`, for the order of the nodes and the edges. -/
def validateExecutionPlan (nodeIds : List NodeId) (edges : List PipelineEdge) :
    Except String Unit := do
  require (nodeIds != []) "execution plan requires at least one node"
  require (nodeIds.length ≤ maxExecutionPlanNodes)
    "execution plan exceeds the node limit"
  require (edges.length ≤ maxExecutionPlanEdges)
    "execution plan exceeds the edge limit"
  require (decide nodeIds.Nodup)
    "execution-plan node identities must be unique"
  require (decide edges.Nodup) "execution-plan edges must be unique"
  require (edges.all fun edge =>
      nodeIds.contains edge.sourceNodeId && nodeIds.contains edge.targetNodeId)
    "execution-plan edge references an unknown node"
  require (edges.all fun edge =>
      nodeIds.idxOf edge.sourceNodeId < nodeIds.idxOf edge.targetNodeId)
    "execution-plan nodes are not topologically ordered"

/--
What the scheduler reads of a compiled plan: the identities of its nodes in
order, its edges, and its digest `fingerprint_execution_plan(plan)`.
-/
structure ExecutionPlan where
  nodeIds : List NodeId
  edges : List PipelineEdge
  fingerprint : PlanFingerprint
  valid : validateExecutionPlan nodeIds edges = .ok ()

/-- The sources of the edges into a node, each once, in the order of their texts. -/
def ExecutionPlan.dependencies (plan : ExecutionPlan) (nodeId : NodeId) :
    List NodeId :=
  sortedBy (fun dependencyId => dependencyId.value)
    ((plan.edges.filter fun edge => edge.targetNodeId == nodeId).map
      fun edge => edge.sourceNodeId).dedup

/-! ## Scheduler states -/

/-- What the scheduler raises, and the errors of failed lookups. -/
inductive SchedulerError where
  | invalidState (message : String)
  | deadlock (message : String)
  | transition (message : String)
  | unknownNode (message : String)
  | keyError
  | indexError
deriving DecidableEq

/-- `SchedulerTransitionError`, with the unknown node that extends it. -/
def SchedulerError.isTransition : SchedulerError → Bool
  | .transition _ => true
  | .unknownNode _ => true
  | _ => false

inductive SchedulerStatus where
  | active
  | succeeded
  | failed
deriving DecidableEq

inductive ScheduledNodeStatus where
  | blocked
  | ready
  | running
  | succeeded
  | failed
deriving DecidableEq

def schedulerStateVersion : Int := 1

def maxSchedulerDependencies : Nat := maxExecutionPlanNodes - 1

/-- `ScheduledNode.__post_init__`. -/
def validateScheduledNode (nodeId : NodeId) (status : ScheduledNodeStatus)
    (remaining : List NodeId) : Except SchedulerError Unit := do
  require (decide remaining.Nodup)
    (.invalidState "remaining scheduler dependencies must be unique")
  require (remaining.length ≤ maxSchedulerDependencies)
    (.invalidState "scheduled node exceeds the dependency limit")
  require (!remaining.contains nodeId)
    (.invalidState "a scheduled node cannot depend on itself")
  require (!(status == .blocked && remaining == []))
    (.invalidState "a blocked scheduler node requires a dependency")
  require (!(status != .blocked && remaining != []))
    (.invalidState "an unblocked scheduler node cannot retain a dependency")

/-- One immutable node status and its direct unsatisfied dependencies. -/
structure ScheduledNode where
  nodeId : NodeId
  status : ScheduledNodeStatus
  remainingDependencyIds : List NodeId
  valid : validateScheduledNode nodeId status remainingDependencyIds = .ok ()
  ordered : sortedBy (fun dependencyId => dependencyId.value)
    remainingDependencyIds = remainingDependencyIds

theorem validateScheduledNode_eq_ok {nodeId : NodeId}
    {status : ScheduledNodeStatus} {remaining : List NodeId} :
    validateScheduledNode nodeId status remaining = .ok () ↔
      remaining.Nodup ∧ remaining.length ≤ maxSchedulerDependencies ∧
        nodeId ∉ remaining ∧ (status = .blocked ↔ remaining ≠ []) := by
  simp only [validateScheduledNode, check_bind_eq_ok, require_eq_ok,
    decide_eq_true_eq, Bool.not_eq_true', List.contains_eq_mem,
    decide_eq_false_iff_not, Bool.and_eq_false_iff, beq_eq_false_iff_ne,
    bne_eq_false_iff_eq]
  tauto

theorem validateScheduledNode_sortedBy {nodeId : NodeId}
    {status : ScheduledNodeStatus} {remaining : List NodeId}
    (valid : validateScheduledNode nodeId status remaining = .ok ()) :
    validateScheduledNode nodeId status
      (sortedBy (fun dependencyId => dependencyId.value) remaining) =
        .ok () := by
  have perm := sortedBy_perm (fun dependencyId : NodeId => dependencyId.value)
    remaining
  rw [validateScheduledNode_eq_ok] at valid ⊢
  rw [perm.nodup_iff, perm.length_eq, perm.mem_iff, ne_eq,
    ← List.length_eq_zero_iff, perm.length_eq, List.length_eq_zero_iff]
  exact valid

/-- The constructor of a scheduled node, which sorts what it waits for. -/
def ScheduledNode.create (nodeId : NodeId) (status : ScheduledNodeStatus)
    (remaining : List NodeId) : Except SchedulerError ScheduledNode :=
  match valid : validateScheduledNode nodeId status remaining with
  | .error error => .error error
  | .ok () => .ok {
      nodeId, status
      remainingDependencyIds :=
        sortedBy (fun dependencyId => dependencyId.value) remaining
      valid := validateScheduledNode_sortedBy valid
      ordered := sortedBy_idem _ remaining }

/-- `SchedulerState.__post_init__`. -/
def validateSchedulerState (status : SchedulerStatus)
    (nodes : List ScheduledNode) (version : Int) :
    Except SchedulerError Unit := do
  require (version == schedulerStateVersion)
    (.invalidState "scheduler state version is unsupported")
  require (!nodes.isEmpty)
    (.invalidState "scheduler state requires at least one node")
  require (nodes.length ≤ maxExecutionPlanNodes)
    (.invalidState "scheduler state exceeds the node limit")
  let nodeIds := nodes.map fun node => node.nodeId
  require (decide nodeIds.Nodup)
    (.invalidState "scheduled node identities must be unique")
  require (nodes.all fun node =>
      node.remainingDependencyIds.all fun dependencyId =>
        nodeIds.contains dependencyId)
    (.invalidState "scheduler dependency must identify a known scheduled node")
  let running := nodes.filter fun node => node.status == .running
  let failed := nodes.filter fun node => node.status == .failed
  require (running.length ≤ 1)
    (.invalidState "sequential scheduler permits one running node")
  match status with
  | .active => do
      require failed.isEmpty
        (.invalidState "active scheduler state cannot contain failure")
      require (!nodes.all fun node => node.status == .succeeded)
        (.invalidState "completed scheduler state must be succeeded")
      require (!running.isEmpty || nodes.any fun node => node.status == .ready)
        (.deadlock "active scheduler state has no running or ready node")
  | .succeeded =>
      require (nodes.all fun node => node.status == .succeeded)
        (.invalidState
          "succeeded scheduler state requires every node to succeed")
  | .failed =>
      require (failed.length == 1 && running.isEmpty)
        (.invalidState
          "failed scheduler state requires one failed node and no running node")

/-- A complete immutable scheduling frontier for one execution plan. -/
structure SchedulerState where
  status : SchedulerStatus
  nodes : List ScheduledNode
  planFingerprint : PlanFingerprint
  version : Int
  valid : validateSchedulerState status nodes version = .ok ()

/-- The constructor of a scheduler state, at the current version. -/
def SchedulerState.create (status : SchedulerStatus)
    (nodes : List ScheduledNode) (planFingerprint : PlanFingerprint) :
    Except SchedulerError SchedulerState :=
  match valid : validateSchedulerState status nodes schedulerStateVersion with
  | .error error => .error error
  | .ok () => .ok {
      status, nodes, planFingerprint, version := schedulerStateVersion, valid }

/-- The identities of the nodes with one status, in the order of the plan. -/
def withStatus (nodes : List ScheduledNode) (status : ScheduledNodeStatus) :
    List NodeId :=
  (nodes.filter fun node => node.status == status).map fun node => node.nodeId

namespace SchedulerState

/-- `active_node_id`. -/
def activeNodeId (state : SchedulerState) : Option NodeId :=
  (withStatus state.nodes .running).head?

/-- `ready_node_ids`. -/
def readyNodeIds (state : SchedulerState) : List NodeId :=
  withStatus state.nodes .ready

/-- `succeeded_node_ids`. -/
def succeededNodeIds (state : SchedulerState) : List NodeId :=
  withStatus state.nodes .succeeded

/-- `failed_node_id`. -/
def failedNodeId (state : SchedulerState) : Option NodeId :=
  (withStatus state.nodes .failed).head?

/-- `{node.node_id: node.status for node in nodes}`. -/
def statuses (state : SchedulerState) : List (NodeId × ScheduledNodeStatus) :=
  state.nodes.map fun node => (node.nodeId, node.status)

end SchedulerState

/-! ## The dependency tracker -/

/-- Advance one execution plan through a strict sequential node frontier. -/
structure DependencyTracker where
  plan : ExecutionPlan
  state : SchedulerState

/-- `statuses[node_id]`. -/
def statusOf (statuses : List (NodeId × ScheduledNodeStatus))
    (nodeId : NodeId) : Except SchedulerError ScheduledNodeStatus :=
  match statuses.lookup nodeId with
  | some status => .ok status
  | none => .error .keyError

/-- The dependencies of a node that have not succeeded. -/
def remainingDependencies (plan : ExecutionPlan)
    (statuses : List (NodeId × ScheduledNodeStatus)) (nodeId : NodeId) :
    Except SchedulerError (List NodeId) :=
  (plan.dependencies nodeId).filterM fun dependencyId => do
    let status ← statusOf statuses dependencyId
    .ok (status != .succeeded)

/-- One pass of the loop in `_replace_status`. -/
def replacedNode (plan : ExecutionPlan)
    (statuses : List (NodeId × ScheduledNodeStatus)) (currentId : NodeId) :
    Except SchedulerError ScheduledNode := do
  let currentStatus ← statusOf statuses currentId
  let remaining ← remainingDependencies plan statuses currentId
  let nextStatus :=
    if currentStatus = .blocked ∨ currentStatus = .ready then
      if remaining.isEmpty then .ready else .blocked
    else currentStatus
  ScheduledNode.create currentId nextStatus
    (if nextStatus = .blocked then remaining else [])

/-- One pass of the loop in `_validate_restored_state`. -/
def validateRestoredNode (plan : ExecutionPlan)
    (statuses : List (NodeId × ScheduledNodeStatus)) (seenFrontier : Bool)
    (node : ScheduledNode) : Except SchedulerError Unit := do
  require (!(node.status == .succeeded && seenFrontier))
    (.invalidState
      "restored scheduler successes must form a deterministic prefix")
  let remaining ← remainingDependencies plan statuses node.nodeId
  let expectedStatus :=
    if remaining.isEmpty then node.status else .blocked
  require (!(!remaining.isEmpty && node.status != expectedStatus))
    (.invalidState "restored scheduler node violates dependency completion")
  require (node.remainingDependencyIds ==
      sortedBy (fun dependencyId => dependencyId.value) remaining)
    (.invalidState
      "restored scheduler dependencies do not match execution plan")

def validateRestoredNodes (plan : ExecutionPlan)
    (statuses : List (NodeId × ScheduledNodeStatus)) :
    Bool → List ScheduledNode → Except SchedulerError Unit
  | _, [] => .ok ()
  | seenFrontier, node :: rest => do
      validateRestoredNode plan statuses seenFrontier node
      validateRestoredNodes plan statuses
        (seenFrontier || node.status != .succeeded) rest

/-- What `_validate_restored_state` asks of the node at the frontier. -/
def validateRestoredFrontier (state : SchedulerState)
    (frontier : ScheduledNode) : Except SchedulerError Unit := do
  require (!(state.activeNodeId.isSome && frontier.status != .running))
    (.invalidState "restored running node must be the deterministic frontier")
  require (!(state.failedNodeId.isSome && frontier.status != .failed))
    (.invalidState "restored failed node must be the deterministic frontier")

/-- `_validate_restored_state`. -/
def validateRestoredState (plan : ExecutionPlan) (state : SchedulerState) :
    Except SchedulerError Unit := do
  require (state.planFingerprint == plan.fingerprint)
    (.invalidState
      "restored scheduler plan fingerprint does not match execution plan")
  require ((state.nodes.map fun node => node.nodeId) == plan.nodeIds)
    (.invalidState
      "restored scheduler nodes must exactly match execution-plan order")
  validateRestoredNodes plan state.statuses false state.nodes
  if state.succeededNodeIds.length = plan.nodeIds.length then
    .ok ()
  else
    match state.nodes[state.succeededNodeIds.length]? with
    | some frontier => validateRestoredFrontier state frontier
    | none => .error .indexError

namespace DependencyTracker

/-- `DependencyTracker(plan)`. -/
def create (plan : ExecutionPlan) : Except SchedulerError DependencyTracker := do
  let nodes ← plan.nodeIds.mapM fun nodeId =>
    ScheduledNode.create nodeId
      (if (plan.dependencies nodeId).isEmpty then .ready else .blocked)
      (plan.dependencies nodeId)
  let state ← SchedulerState.create .active nodes plan.fingerprint
  .ok ⟨plan, state⟩

/-- `DependencyTracker(plan, state=state)`. -/
def restore (plan : ExecutionPlan) (state : SchedulerState) :
    Except SchedulerError DependencyTracker := do
  validateRestoredState plan state
  .ok ⟨plan, state⟩

/-- `next_ready_node`. -/
def nextReadyNode (tracker : DependencyTracker) :
    Except SchedulerError (Option NodeId) :=
  if tracker.state.status ≠ .active then
    .ok none
  else if tracker.state.activeNodeId.isSome then
    .ok none
  else
    match tracker.state.readyNodeIds with
    | nodeId :: _ => .ok (some nodeId)
    | [] => .error .indexError

/-- `_require_known_node`. -/
def requireKnownNode (tracker : DependencyTracker) (nodeId : NodeId) :
    Except SchedulerError Unit :=
  require (tracker.plan.nodeIds.contains nodeId)
    (.unknownNode "scheduler node is unknown")

/-- `_require_active_node`. -/
def requireActiveNode (tracker : DependencyTracker) (nodeId : NodeId) :
    Except SchedulerError Unit := do
  tracker.requireKnownNode nodeId
  require (tracker.state.status == .active)
    (.transition "terminal scheduler state cannot complete a node")
  require (tracker.state.activeNodeId == some nodeId)
    (.transition "scheduler completion does not match the running node")

/-- `_replace_status`. -/
def replaceStatus (tracker : DependencyTracker) (nodeId : NodeId)
    (target : ScheduledNodeStatus) : Except SchedulerError SchedulerState := do
  let statuses := alter nodeId (fun _ => target) tracker.state.statuses
  let nodes ← tracker.plan.nodeIds.mapM (replacedNode tracker.plan statuses)
  let status : SchedulerStatus :=
    if target = .failed then .failed
    else if nodes.all fun node => node.status == .succeeded then .succeeded
    else .active
  SchedulerState.create status nodes tracker.plan.fingerprint

/-- `start`. -/
def start (tracker : DependencyTracker) (nodeId : NodeId) :
    Except SchedulerError DependencyTracker := do
  tracker.requireKnownNode nodeId
  require (tracker.state.status == .active)
    (.transition "terminal scheduler state cannot start a node")
  require tracker.state.activeNodeId.isNone
    (.transition "sequential scheduler already has a running node")
  let nextNode ← tracker.nextReadyNode
  require (nextNode == some nodeId)
    (.transition "scheduler node is not next in deterministic order")
  let state ← tracker.replaceStatus nodeId .running
  .ok { tracker with state }

/-- `succeed`. -/
def succeed (tracker : DependencyTracker) (nodeId : NodeId) :
    Except SchedulerError DependencyTracker := do
  tracker.requireActiveNode nodeId
  let state ← tracker.replaceStatus nodeId .succeeded
  .ok { tracker with state }

/-- `fail`. -/
def fail (tracker : DependencyTracker) (nodeId : NodeId) :
    Except SchedulerError DependencyTracker := do
  tracker.requireActiveNode nodeId
  let state ← tracker.replaceStatus nodeId .failed
  .ok { tracker with state }

/-- `pause`. -/
def pause (tracker : DependencyTracker) (nodeId : NodeId) :
    Except SchedulerError DependencyTracker := do
  require (tracker.state.status == .active)
    (.transition "terminal scheduler cannot pause a node")
  require (tracker.state.activeNodeId == some nodeId)
    (.transition "only the active scheduler node can pause")
  let nodes ← tracker.state.nodes.mapM fun node =>
    ScheduledNode.create node.nodeId
      (if node.nodeId = nodeId then .ready else node.status)
      node.remainingDependencyIds
  let state ← SchedulerState.create .active nodes tracker.plan.fingerprint
  .ok { tracker with state }

end DependencyTracker

end ParityGrid.Application.Sequential
