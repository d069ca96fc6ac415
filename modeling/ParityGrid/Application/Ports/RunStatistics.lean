import ParityGrid.Application.Ports.Execution

/-!
# Run statistics

A statistics snapshot accepts the rows of a run only when they are coherent:
every row has its parent, the attempts of an item are numbered without a gap,
and every aggregate of a node is the count of its work.
-/

namespace ParityGrid.Application

open ParityGrid.Foundation
open ParityGrid.Domain (NodeId RunId)

/-- What constructing a snapshot raises. -/
inductive RunStatisticsError where
  /-- `RunStatisticsInvalidError`. -/
  | invalid (message : String)
  | valueError (message : String)
deriving DecidableEq

def maxRunStatisticsNodes : Nat := 10000

def maxRunStatisticsWorkItems : Nat := 1000000

def maxRunStatisticsAttempts : Nat := 5000000

def maxRunStatisticsMetric : Int := 9223372036854775807

/-- `_metric`. -/
def requireMetric (value : Int) : Except RunStatisticsError Unit :=
  require (0 ≤ value && value ≤ maxRunStatisticsMetric)
    (.valueError "run statistics metric is outside the range")

/-- `_positive_int` and `_bounded_count`, from a lower bound. -/
def requireCount (lower value : Int) (subject : String) :
    Except RunStatisticsError Unit :=
  require (lower ≤ value && value ≤ 2147483647)
    (.valueError (subject ++ " is outside the range"))

/-- `_require_unique`. -/
def requireUnique {α : Type} [DecidableEq α] (values : List α)
    (subject : String) : Except RunStatisticsError Unit :=
  require (decide values.Nodup)
    (.invalid ("statistics " ++ subject ++ " identity is duplicated"))

/-- The metrics of a node that are bounded. -/
def RunNodeRecord.metrics (node : RunNodeRecord) : List Int :=
  [node.workTotal, node.workPending, node.workRunning, node.workSucceeded,
    node.workQuarantined, node.workFailed, node.workCancelled,
    node.recordsRead, node.recordsWritten, node.recordsQuarantined,
    node.bytesRead, node.bytesWritten, node.retryCount]

/-- The columns of a node that are derived from its work and attempts. -/
structure NodeAggregate where
  total : Int
  pending : Int
  running : Int
  succeeded : Int
  quarantined : Int
  failed : Int
  cancelled : Int
  retryCount : Int
  durationMicroseconds : Int
deriving DecidableEq

def RunNodeRecord.aggregate (node : RunNodeRecord) : NodeAggregate where
  total := node.workTotal
  pending := node.workPending
  running := node.workRunning
  succeeded := node.workSucceeded
  quarantined := node.workQuarantined
  failed := node.workFailed
  cancelled := node.workCancelled
  retryCount := node.retryCount
  durationMicroseconds := node.duration.microseconds

section Snapshot

variable [PythonRuntime]

/-- How many items are in a state. -/
def countState (state : Domain.WorkItemState) (work : List WorkItemRecord) :
    Int :=
  work.countP fun item => item.state == state

/-- The attempts of some work items. -/
def attemptsOf (children : List WorkItemRecord)
    (attempts : List WorkAttemptRecord) : List WorkAttemptRecord :=
  attempts.filter fun attempt =>
    children.any fun work => work.workItemId == attempt.workItemId

/-- The aggregate of one node, recomputed from the rows below it. -/
def derivedAggregate (nodeId : NodeId) (work : List WorkItemRecord)
    (attempts : List WorkAttemptRecord) : NodeAggregate :=
  let children := work.filter fun item => item.nodeId == nodeId
  let tried := attemptsOf children attempts
  { total := children.length
    pending := countState .pending children + countState .retryWait children
    running := countState .running children
    succeeded := countState .succeeded children
    quarantined := countState .quarantined children
    failed := countState .failed children
    cancelled := countState .cancelled children
    retryCount := tried.countP fun attempt => attempt.outcome.isRetry
    durationMicroseconds :=
      (tried.map fun attempt => attempt.duration.microseconds).sum }

/-- The attempts of one item are numbered from one without a gap. -/
def requireContiguous (attempts : List WorkAttemptRecord)
    (work : WorkItemRecord) : Except RunStatisticsError Unit :=
  let numbers := sorted ((attemptsOf [work] attempts).map fun attempt =>
    attempt.attemptNumber.number)
  require
    (numbers == (List.range work.completedAttemptCount.toNat).map
      fun index => (index : Int) + 1)
    (.invalid "statistics attempt history is not contiguous")

/-- The aggregate of one node is the one recomputed. -/
def requireAggregate (work : List WorkItemRecord)
    (attempts : List WorkAttemptRecord) (node : RunNodeRecord) :
    Except RunStatisticsError Unit := do
  require
    (!work.any fun item => item.nodeId == node.nodeId && item.state == .leased)
    (.invalid "statistics work state is transient")
  require (node.aggregate == derivedAggregate node.nodeId work attempts)
    (.invalid "statistics run-node aggregate is inconsistent")

/-- `_validate_relationships`. -/
def validateRelationships (run : RunRecord) (nodes : List RunNodeRecord)
    (work : List WorkItemRecord) (attempts : List WorkAttemptRecord) :
    Except RunStatisticsError Unit := do
  requireCount 1 run.rowVersion "statistics run row version"
  nodes.forM fun node => do
    requireCount 1 node.rowVersion "statistics node row version"
    node.metrics.forM requireMetric
  work.forM fun item =>
    requireCount 0 item.completedAttemptCount
      "statistics completed-attempt count"
  require (nodes.all fun node => node.runId == run.runId)
    (.invalid "statistics node belongs to another run")
  require
    (work.all fun item => item.runId == run.runId &&
      nodes.any fun node => node.nodeId == item.nodeId)
    (.invalid "statistics work item has an invalid parent")
  require
    (attempts.all fun attempt =>
      work.any fun item => item.workItemId == attempt.workItemId)
    (.invalid "statistics attempt has an invalid parent")
  work.forM (requireContiguous attempts)
  nodes.forM (requireAggregate work attempts)

/-- `RunStatisticsSourceSnapshot(run, nodes, work_items, attempts)`. -/
def validateSource (run : RunRecord) (nodes : List RunNodeRecord)
    (work : List WorkItemRecord) (attempts : List WorkAttemptRecord) :
    Except RunStatisticsError Unit := do
  require (!nodes.isEmpty && nodes.length ≤ maxRunStatisticsNodes)
    (.invalid "statistics node count is outside the range")
  require (work.length ≤ maxRunStatisticsWorkItems)
    (.invalid "statistics work-item count exceeds the limit")
  require (attempts.length ≤ maxRunStatisticsAttempts)
    (.invalid "statistics attempt count exceeds the limit")
  requireUnique (nodes.map fun node => node.nodeId) "node"
  requireUnique (work.map fun item => item.workItemId) "work item"
  requireUnique
    (attempts.map fun attempt => (attempt.workItemId, attempt.attemptNumber))
    "attempt"
  validateRelationships run nodes work attempts

end Snapshot

/-- One exact run-level metric projection. -/
structure RunStatisticsSummary where
  runId : RunId
  runVersion : Int
  state : Domain.RunState
  nodeCount : Int
  workTotal : Int
  workPending : Int
  workRunning : Int
  workSucceeded : Int
  workQuarantined : Int
  workFailed : Int
  workCancelled : Int
  attemptCount : Int
  retryCount : Int
  recordsRead : Int
  recordsWritten : Int
  recordsQuarantined : Int
  bytesRead : Int
  bytesWritten : Int
  durationMicroseconds : Int
  attemptLatencyP50Microseconds : Option Int
  attemptLatencyP95Microseconds : Option Int
  attemptLatencyP99Microseconds : Option Int
  startedAt : Option Instant
  finishedAt : Option Instant

end ParityGrid.Application
