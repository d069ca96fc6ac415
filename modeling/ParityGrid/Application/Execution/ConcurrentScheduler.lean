import ParityGrid.Application.Execution.Frontier

/-!
# The concurrent scheduler

The scheduler is created from a validated plan and then moves work between its
states.  Its dictionaries are keyed by the work of the plan; every reader sorts
the items it iterates over, so a dictionary is the function that looks a key
up, and its items are read in the order of the plan's identities.

An operation answers a value or raises, and leaves a scheduler either way.
-/

namespace ParityGrid.Application

open ParityGrid.Foundation

/-! ## The plan -/

/-- What `__init__` derives from its arguments and never changes. -/
structure SchedulerPlan where
  runId : Text
  planFingerprint : Text
  nodeOrder : List Text
  edges : List (Text × Text)
  identitiesByNode : List (Text × List WorkIdentity)
deriving DecidableEq

namespace SchedulerPlan

/-- The partitions of every node, in ascending order. -/
def partitions (nodeOrder : List Text)
    (partitionsByNode : List (Text × List Text)) :
    Except SchedulerError (List (Text × List Text)) :=
  nodeOrder.mapM fun node => do
    let keys := (partitionsByNode.lookup node).getD []
    require (keys ≠ []) (.invalidState
      "scheduler node partitions must not be empty")
    keys.forM fun key => requireIdentityText key "scheduler partition key"
    require (decide (sorted keys).Nodup) (.invalidState
      "scheduler node partitions must be unique")
    return (node, sorted keys)

/-- The arguments of `__init__`, checked in order. -/
def create (runId planFingerprint : Text) (nodeOrder : List Text)
    (edges : List (Text × Text))
    (partitionsByNode : List (Text × List Text)) :
    Except SchedulerError SchedulerPlan := do
  requireIdentityText runId "scheduler run identity"
  require (isFrontierFingerprint planFingerprint) (.invalidState
    "scheduler plan fingerprint must use 64 lowercase hexadecimal characters")
  nodeOrder.forM fun node =>
    requireIdentityText node "scheduler node identity"
  require (nodeOrder ≠ [])
    (.invalidState "scheduler node order must not be empty")
  require (decide nodeOrder.Nodup)
    (.invalidState "scheduler node identities must be unique")
  edges.forM fun edge => do
    requireIdentityText edge.1 "scheduler edge source"
    requireIdentityText edge.2 "scheduler edge target"
  edges.forM fun edge => do
    require (edge.1 ∈ nodeOrder && edge.2 ∈ nodeOrder)
      (.invalidState "scheduler edge must identify a known node")
    require (edge.1 ≠ edge.2)
      (.invalidState "scheduler edge cannot be a self dependency")
  require (decide edges.Nodup) (.invalidState "scheduler edges must be unique")
  require (!containsCycle nodeOrder edges)
    (.invalidState "scheduler edges must not contain a directed cycle")
  require (partitionsByNode.length = nodeOrder.length &&
      nodeOrder.all (· ∈ partitionsByNode.map Prod.fst))
    (.invalidState "scheduler partitions must cover every planned node")
  let ordered ← partitions nodeOrder partitionsByNode
  require ((ordered.map fun entry => entry.2.length).sum ≤
      maxFrontierWorkItems)
    (.invalidState "scheduler exceeds the work item bound")
  let identitiesByNode ← ordered.mapM fun entry => do
    let identities ← entry.2.mapM (WorkIdentity.create runId entry.1)
    return (entry.1, identities)
  return {
    runId
    planFingerprint
    nodeOrder
    edges := sortedBy toLex edges
    identitiesByNode }

/-- `_predecessors[node]`. -/
def predecessors (plan : SchedulerPlan) (node : Text) : List Text :=
  sorted (predecessorsOf plan.edges node)

/-- `_successors[node]`, in the order of the plan. -/
def successors (plan : SchedulerPlan) (node : Text) : List Text :=
  plan.nodeOrder.filter fun candidate => node ∈ plan.predecessors candidate

/-- `_identities_by_node[node]`. -/
def identitiesOf (plan : SchedulerPlan) (node : Text) : List WorkIdentity :=
  (plan.identitiesByNode.lookup node).getD []

/-- All work of the plan, in the order in which `_states` first stores it. -/
def identities (plan : SchedulerPlan) : List WorkIdentity :=
  plan.identitiesByNode.flatMap Prod.snd

/-- All work of the plan, in the order of frontiers. -/
def ordered (plan : SchedulerPlan) : List WorkIdentity :=
  sortedBy WorkIdentity.sortKey plan.identities

/-- `_plan_position`. -/
def position (plan : SchedulerPlan) (identity : WorkIdentity) : Nat ×ₗ Text :=
  toLex (plan.nodeOrder.idxOf identity.nodeId, identity.partitionKey)

end SchedulerPlan

/-! ## The scheduler -/

structure ConcurrentScheduler where
  plan : SchedulerPlan
  controlGeneration : ControlGeneration
  controlState : ContractLifecycleState
  recoveryReason : Option Text
  states : WorkIdentity → Option FrontierWorkState
  fences : WorkIdentity → Option Int
  retryWaits : WorkIdentity → Option FrontierRetryWait

/-- What an operation answers or raises, and the scheduler it leaves. -/
abbrev SchedulerAnswer (α : Type) :=
  Except SchedulerError α × ConcurrentScheduler

/-- A fresh scheduler: work without predecessors is ready. -/
def SchedulerPlan.start (plan : SchedulerPlan)
    (controlGeneration : ControlGeneration) : ConcurrentScheduler where
  plan
  controlGeneration
  controlState := .running
  recoveryReason := none
  states identity :=
    if identity ∈ plan.identities then
      some (if plan.predecessors identity.nodeId = [] then .ready
        else .blocked)
    else
      none
  fences _ := none
  retryWaits _ := none

namespace ConcurrentScheduler

/-- `ConcurrentScheduler(...)`. -/
def create (runId planFingerprint : Text) (nodeOrder : List Text)
    (edges : List (Text × Text))
    (partitionsByNode : List (Text × List Text))
    (controlGeneration : ControlGeneration) :
    Except SchedulerError ConcurrentScheduler := do
  let plan ← SchedulerPlan.create runId planFingerprint nodeOrder edges
    partitionsByNode
  return plan.start controlGeneration

/-- What `frontier` passes to the frontier's constructor. -/
def fields (scheduler : ConcurrentScheduler) : FrontierFields where
  version := schedulerFrontierVersion
  planFingerprint := scheduler.plan.planFingerprint
  controlGeneration := scheduler.controlGeneration
  runId := scheduler.plan.runId
  nodeOrder := scheduler.plan.nodeOrder
  edges := scheduler.plan.edges
  workStates := itemsOf scheduler.states scheduler.plan.ordered
  leaseFences := itemsOf scheduler.fences scheduler.plan.ordered
  retryWaits := scheduler.plan.ordered.filterMap scheduler.retryWaits
  controlState := scheduler.controlState
  recoveryRequiredReason := scheduler.recoveryReason

/-- `frontier`. -/
def frontier (scheduler : ConcurrentScheduler) :
    Except SchedulerError SchedulerFrontierV2 :=
  SchedulerFrontierV2.create scheduler.fields

/-- The work in one state, in the order of the plan. -/
def inState (scheduler : ConcurrentScheduler) (state : FrontierWorkState) :
    List WorkIdentity :=
  sortedBy scheduler.plan.position
    (scheduler.plan.identities.filter fun identity =>
      scheduler.states identity = some state)

/-- `next_ready`. -/
def nextReady (scheduler : ConcurrentScheduler) (limit : Int) :
    Except SchedulerError (List WorkIdentity) := do
  require (1 ≤ limit) (.invalidState "admission limit must be positive")
  if scheduler.controlState = .running then
    return (scheduler.inState .ready).take limit.toNat
  else
    return []

/-- `register_admission`. -/
def registerAdmission (scheduler : ConcurrentScheduler)
    (identity : WorkIdentity) (leaseFence : Int) : SchedulerAnswer Unit :=
  if ¬ (1 ≤ leaseFence ∧ leaseFence ≤ maxFrontierLeaseFence) then
    (.error (.invalidState
      "admitted lease fence is outside the supported range"), scheduler)
  else
    match scheduler.states identity with
    | none =>
        (.error (.invalidState "admitted work identity is unknown"), scheduler)
    | some state =>
        if state.isInFlight then
          (.error (.capacity
            "work identity is already admitted and still in flight"),
            scheduler)
        else if state ≠ .ready then
          (.error (.transition "only ready work can be admitted"), scheduler)
        else if scheduler.controlState ≠ .running then
          (.error (.transition
            "scheduler control state does not admit new work"), scheduler)
        else
          (.ok (), { scheduler with
            states := Function.update scheduler.states identity
              (some .admitted)
            fences := Function.update scheduler.fences identity
              (some leaseFence) })

/-- `mark_result_received`. -/
def markResultReceived (scheduler : ConcurrentScheduler)
    (identity : WorkIdentity) : SchedulerAnswer Unit :=
  match scheduler.states identity with
  | none =>
      (.error (.invalidState "received work identity is unknown"), scheduler)
  | some state =>
      if state ≠ .admitted then
        (.error (.transition "only admitted work can receive a result"),
          scheduler)
      else
        (.ok (), { scheduler with
          states := Function.update scheduler.states identity
            (some .awaitingCommit) })

/-- `_node_aggregate`. -/
def nodeAggregate (scheduler : ConcurrentScheduler) (node : Text) :
    Except SchedulerError FrontierNodeAggregate :=
  Application.nodeAggregate node
    ((scheduler.plan.identitiesOf node).filterMap scheduler.states)

/-- One turn of `_release_successors`. -/
def releaseSuccessor (scheduler : ConcurrentScheduler) (successor : Text) :
    Except SchedulerError ConcurrentScheduler := do
  let permitted ← (scheduler.plan.predecessors successor).allM
    fun predecessor => do
      let aggregate ← scheduler.nodeAggregate predecessor
      return aggregate.permitsContinuation
  if permitted then
    return { scheduler with
      states := fun identity =>
        if identity ∈ scheduler.plan.identitiesOf successor ∧
            scheduler.states identity = some .blocked then
          some .ready
        else
          scheduler.states identity }
  else
    return scheduler

/-- The turns of `_release_successors`; a turn that raises ends the loop. -/
def releaseEach (scheduler : ConcurrentScheduler) :
    List Text → SchedulerAnswer Unit
  | [] => (.ok (), scheduler)
  | successor :: rest =>
      match scheduler.releaseSuccessor successor with
      | .error failure => (.error failure, scheduler)
      | .ok released => released.releaseEach rest

/-- `_release_successors`. -/
def releaseSuccessors (scheduler : ConcurrentScheduler) (node : Text) :
    SchedulerAnswer Unit :=
  scheduler.releaseEach (scheduler.plan.successors node)

end ConcurrentScheduler

def frontierWorkStates : List FrontierWorkState :=
  [.blocked, .ready, .admitted, .awaitingCommit, .retryWait, .succeeded,
    .quarantined, .failed, .cancelled]

/-- `FrontierWorkState(value)`. -/
def FrontierWorkState.parse (value : Text) : Option FrontierWorkState :=
  frontierWorkStates.find? fun state => text state.value = value

namespace ConcurrentScheduler

/-- `commit_result`. -/
def commitResult (scheduler : ConcurrentScheduler) (identity : WorkIdentity)
    (outcome : Text) : SchedulerAnswer Unit :=
  match FrontierWorkState.parse outcome with
  | none =>
      (.error (.invalidState "committed outcome is unknown"), scheduler)
  | some terminal =>
      if !terminal.isTerminal then
        (.error (.invalidState "committed outcome must be terminal"),
          scheduler)
      else
        match scheduler.states identity with
        | none =>
            (.error (.invalidState "committed work identity is unknown"),
              scheduler)
        | some state =>
            if !state.isInFlight then
              (.error (.transition "only in-flight work can commit a result"),
                scheduler)
            else
              { scheduler with
                states := Function.update scheduler.states identity
                  (some terminal)
                fences := Function.update scheduler.fences identity none }
                |>.releaseSuccessors identity.nodeId

/-- `schedule_retry`: the state has already moved when the wait is built. -/
def scheduleRetry (scheduler : ConcurrentScheduler) (identity : WorkIdentity)
    (eligibleAtMicros : Int) (reason : Text) : SchedulerAnswer Unit :=
  if eligibleAtMicros < 0 then
    (.error (.invalidState "retry eligibility must not be negative"),
      scheduler)
  else
    match requireReasonText reason "scheduler retry reason" with
    | .error failure => (.error failure, scheduler)
    | .ok () =>
        match scheduler.states identity with
        | none =>
            (.error (.invalidState "retried work identity is unknown"),
              scheduler)
        | some state =>
            if !state.isInFlight then
              (.error (.transition "only in-flight work can wait for retry"),
                scheduler)
            else
              let moved := { scheduler with
                states := Function.update scheduler.states identity
                  (some .retryWait)
                fences := Function.update scheduler.fences identity none }
              match FrontierRetryWait.create identity eligibleAtMicros
                  reason with
              | .error failure => (.error failure, moved)
              | .ok wait =>
                  (.ok (), { moved with
                    retryWaits := Function.update moved.retryWaits identity
                      (some wait) })

/-- The waiting work that is eligible at an instant. -/
def due (scheduler : ConcurrentScheduler) (nowMicros : Int) :
    List WorkIdentity :=
  sortedBy scheduler.plan.position
    (scheduler.plan.identities.filter fun identity =>
      (scheduler.retryWaits identity).any fun wait =>
        wait.eligibleAtMicros ≤ nowMicros)

/-- `retry_eligible`. -/
def retryEligible (scheduler : ConcurrentScheduler) (nowMicros : Int) :
    SchedulerAnswer (List WorkIdentity) :=
  if nowMicros < 0 then
    (.error (.invalidState "retry clock must not be negative"), scheduler)
  else
    let due := scheduler.due nowMicros
    (.ok due, { scheduler with
      states := fun identity =>
        if identity ∈ due then some .ready else scheduler.states identity
      retryWaits := fun identity =>
        if identity ∈ due then none else scheduler.retryWaits identity })

/-- `_next_generation`. -/
def nextGeneration (scheduler : ConcurrentScheduler) :
    Except SchedulerError ControlGeneration :=
  if bounds : 1 ≤ scheduler.controlGeneration.value + 1 ∧
      scheduler.controlGeneration.value + 1 ≤ 2147483647 then
    .ok ⟨scheduler.controlGeneration.value + 1, bounds⟩
  else
    .error (.transition "scheduler control generation space is exhausted")

/-- `_require_control`. -/
def requireControl (scheduler : ConcurrentScheduler)
    (expected : ContractLifecycleState) (action : String) :
    Except SchedulerError Unit :=
  require (scheduler.controlState = expected)
    (.transition ("scheduler control state cannot " ++ action))

/-- From one control state to another, under a new generation. -/
def advance (scheduler : ConcurrentScheduler)
    (expected target : ContractLifecycleState) (action : String) :
    SchedulerAnswer ControlGeneration :=
  match (do
    scheduler.requireControl expected action
    scheduler.nextGeneration) with
  | .error failure => (.error failure, scheduler)
  | .ok generation =>
      (.ok generation, { scheduler with
        controlState := target
        controlGeneration := generation })

/-- From one control state to another, under the same generation. -/
def switch (scheduler : ConcurrentScheduler)
    (expected target : ContractLifecycleState) (action : String) :
    SchedulerAnswer Unit :=
  match scheduler.requireControl expected action with
  | .error failure => (.error failure, scheduler)
  | .ok () => (.ok (), { scheduler with controlState := target })

/-- `request_pause`. -/
def requestPause (scheduler : ConcurrentScheduler) :
    SchedulerAnswer ControlGeneration :=
  scheduler.advance .running .quiescing "request a pause"

/-- `mark_paused`. -/
def markPaused (scheduler : ConcurrentScheduler) : SchedulerAnswer Unit :=
  scheduler.switch .quiescing .paused "mark paused"

/-- `abort_pause`. -/
def abortPause (scheduler : ConcurrentScheduler) :
    SchedulerAnswer ControlGeneration :=
  scheduler.advance .quiescing .running "abort a pause"

/-- `resume`. -/
def resume (scheduler : ConcurrentScheduler) :
    SchedulerAnswer ControlGeneration :=
  scheduler.advance .paused .running "resume"

/-- `request_cancel`. -/
def requestCancel (scheduler : ConcurrentScheduler) : SchedulerAnswer Unit :=
  scheduler.switch .running .cancelling "request cancellation"

/-- `mark_recovery_required`. -/
def markRecoveryRequired (scheduler : ConcurrentScheduler) (reason : Text) :
    SchedulerAnswer Unit :=
  match requireReasonText reason "scheduler recovery reason" with
  | .error failure => (.error failure, scheduler)
  | .ok () =>
      if scheduler.controlState ∈ [ContractLifecycleState.running,
          .quiescing, .paused, .cancelling] then
        (.ok (), { scheduler with
          controlState := .recoveryRequired
          recoveryReason := some reason })
      else
        (.error (.transition
          "scheduler control state cannot require recovery again"), scheduler)

/-- `is_finished`. -/
def isFinished (scheduler : ConcurrentScheduler) : Bool :=
  scheduler.plan.identities.all fun identity =>
    (scheduler.states identity).all (·.isTerminal)

/-- `failed_node_ids`. -/
def failedNodeIds (scheduler : ConcurrentScheduler) :
    Except SchedulerError (List Text) :=
  scheduler.plan.nodeOrder.filterM fun node => do
    let aggregate ← scheduler.nodeAggregate node
    return aggregate.isBlockedTerminal

/-- The checks of `restore`. -/
def checkRestored (scheduler : ConcurrentScheduler)
    (frontier : SchedulerFrontierV2) : Except SchedulerError Unit := do
  require (frontier.runId = scheduler.plan.runId) (.frontierCorrupt
    "restored frontier run does not match the scheduler")
  require (frontier.planFingerprint = scheduler.plan.planFingerprint)
    (.frontierCorrupt
      "restored frontier plan fingerprint does not match the scheduler")
  require (frontier.nodeOrder = scheduler.plan.nodeOrder) (.frontierCorrupt
    "restored frontier nodes do not match the scheduler")
  require (frontier.edges = scheduler.plan.edges) (.frontierCorrupt
    "restored frontier edges do not match the scheduler")
  require
    ((frontier.identities.all fun identity =>
        (scheduler.states identity).isSome) &&
      scheduler.plan.identities.all fun identity =>
        (scheduler.states identity).isNone || identity ∈ frontier.identities)
    (.frontierCorrupt
      "restored frontier work does not match the scheduler partitions")
  validateFrontierDependencyBarriers frontier.nodeOrder frontier.edges
    frontier.workStates

/-- `restore`. -/
def restore (scheduler : ConcurrentScheduler)
    (frontier : SchedulerFrontierV2) : SchedulerAnswer Unit :=
  match scheduler.checkRestored frontier with
  | .error failure => (.error failure, scheduler)
  | .ok () =>
      (.ok (), { scheduler with
        states := fun identity => frontier.workStates.lookup identity
        fences := fun identity => frontier.leaseFences.lookup identity
        retryWaits := fun identity =>
          frontier.retryWaits.find? fun wait => wait.identity = identity
        controlState := frontier.controlState
        controlGeneration := frontier.controlGeneration
        recoveryReason := frontier.recoveryRequiredReason })

end ConcurrentScheduler

end ParityGrid.Application
