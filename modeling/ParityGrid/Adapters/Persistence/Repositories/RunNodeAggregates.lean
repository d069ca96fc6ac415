import ParityGrid.Adapters.Persistence.Repositories.WorkItems
import ParityGrid.Application.Ports.RunStatistics

/-!
# Checkpoints and node aggregates

A successful attempt may append one checkpoint to its partition.  Every change
of a work item is folded into its node: the aggregate is recomputed from the
rows, and the row of the node must have been the aggregate of the rows before
the change.
-/

namespace ParityGrid.Application

/-- Checkpoint fields installed after a winning work completion. -/
structure CheckpointWrite [CasefoldRuntime] where
  expectedPartitionKey : Domain.PartitionKey
  payloadSchemaVersion : Int
  sourceCursor : Option ConfigurationDocument
  outputPosition : Option ConfigurationDocument
  artifactId : Option Domain.ArtifactId
  committedAt : Instant
deriving DecidableEq

end ParityGrid.Application

namespace ParityGrid.Adapters.Persistence

open ParityGrid.Foundation ParityGrid.Application
open ParityGrid.Domain (ArtifactId Duration NodeId PartitionKey WorkItemId
  validateDuration)

/-! ## Checkpoints -/

section Checkpoints

variable [CasefoldRuntime]

structure CheckpointCommit where
  head : CheckpointHeadRecord
  checkpoint : CheckpointRecord
  /-- `UpdatedWorkCheckpoint`: the work item as the append left it. -/
  work : WorkItemRecord
deriving DecidableEq

/-- The work item of a partition. -/
def ExecutionTables.findPartition (tables : ExecutionTables) (nodeId : NodeId)
    (partitionKey : PartitionKey) : Option WorkItemRecord :=
  tables.work.find? fun row =>
    row.nodeId == nodeId && row.partitionKey == partitionKey

/-- The checkpoints of a partition. -/
def ExecutionTables.history (tables : ExecutionTables) (nodeId : NodeId)
    (partitionKey : PartitionKey) : List CheckpointRecord :=
  tables.checkpoints.filter fun row =>
    row.nodeId == nodeId && row.partitionKey == partitionKey

/-- What `_load_checkpoint_state` checks of a partition that exists. -/
def validateCheckpointState (tables : ExecutionTables) (work : WorkItemRecord)
    (head : CheckpointHeadRecord) : Except ConsistencyError Unit := do
  require (work.expectedCheckpointVersion == head.currentVersion)
    (.corruption "checkpoint and work frontiers diverge")
  require (head.rowVersion == head.currentVersion + 1)
    (.corruption "checkpoint head row version is corrupt")
  require (work.createdAt ≤ head.updatedAt && head.updatedAt ≤ work.updatedAt)
    (.corruption "checkpoint parent chronology is corrupt")
  let versions := sorted ((tables.history head.nodeId head.partitionKey).map
    fun row => row.version)
  require
    (decide (versions = (List.range head.currentVersion.toNat).map
      fun index => (index : Int) + 1))
    (.corruption (if head.currentVersion = 0
      then "checkpoint history exceeds its frontier"
      else "checkpoint history is not contiguous"))

/-- `_require_checkpoint_artifact`. -/
def requireCheckpointArtifact (tables : ExecutionTables) (nodeId : NodeId)
    (partitionKey : PartitionKey) (committedAt : Instant)
    (artifactId : ArtifactId) : Except RepositoryError Unit :=
  match tables.artifacts.find? fun row => row.artifactId == artifactId with
  | none => .error (.recordNotFound "checkpoint artifact does not exist")
  | some artifact => do
      require
        (artifact.nodeId == nodeId && artifact.partitionKey == partitionKey)
        (.stateConflict
          "checkpoint artifact belongs to another work partition")
      require (artifact.createdAt ≤ committedAt)
        (.invalidRequest "checkpoint cannot precede its artifact")

/--
`SqlAlchemyCheckpointRepository.append`, at the frontier where the completed
work item stands.  A head that already shows the next version diverges from the
work item, which the load reports as corruption.
-/
def appendCheckpoint (tables : ExecutionTables) (completed : WorkItemRecord)
    (write : CheckpointWrite) :
    Except RepositoryError (ExecutionTables × CheckpointCommit) := do
  let current := completed.expectedCheckpointVersion
  requireIncrementable (current + 1) "checkpoint head row version"
  requireIncrementable completed.rowVersion "work-item row version"
  let _ ← (positiveInt write.payloadSchemaVersion
    "checkpoint payload schema version").mapError executionError
  let source ← (storeOptionalDocument write.sourceCursor
    "source cursor").mapError .consistency
  let output ← (storeOptionalDocument write.outputPosition
    "output position").mapError .consistency
  match tables.findPartition completed.nodeId completed.partitionKey,
      tables.findHead completed.nodeId completed.partitionKey with
  | none, none =>
      .error (.recordNotFound "checkpoint parent does not exist")
  | some work, some head => do
      (validateCheckpointState tables work head).mapError .consistency
      require (head.currentVersion != current + 1)
        (.staleRowVersion "checkpoint append frontier is stale")
      require (head.rowVersion == current + 1)
        (.staleRowVersion "checkpoint head row version is stale")
      require (work.rowVersion == completed.rowVersion)
        (.staleRowVersion "work-item row version is stale")
      require (head.currentVersion == current)
        (.stateConflict "checkpoint frontier has changed")
      require
        (head.updatedAt ≤ write.committedAt && work.updatedAt ≤ write.committedAt)
        (.invalidRequest "checkpoint commit time is not monotonic")
      match write.artifactId with
      | none => pure ()
      | some artifact =>
          requireCheckpointArtifact tables completed.nodeId
            completed.partitionKey write.committedAt artifact
      let newHead : CheckpointHeadRecord :=
        { head with
          currentVersion := current + 1
          updatedAt := write.committedAt
          rowVersion := current + 2 }
      let newWork : WorkItemRecord :=
        { work with
          expectedCheckpointVersion := current + 1
          rowVersion := completed.rowVersion + 1
          updatedAt := write.committedAt }
      let checkpoint : CheckpointRecord :=
        { nodeId := completed.nodeId
          partitionKey := completed.partitionKey
          version := current + 1
          payloadSchemaVersion := write.payloadSchemaVersion
          sourceCursor := source
          outputPosition := output
          artifactId := write.artifactId
          committedAt := write.committedAt }
      let after :=
        { (tables.setHead newHead).setWork newWork with
          checkpoints := tables.checkpoints ++ [checkpoint] }
      .ok (after,
        { head := newHead, checkpoint := checkpoint, work := newWork })
  | _, _ =>
      .error (.consistency
        (.corruption "checkpoint parent relationship is incomplete"))

end Checkpoints

/-! ## Node aggregates -/

section Aggregates

variable [CasefoldRuntime]

/-- Directional metrics contributed by one completed attempt. -/
structure WorkMetricDelta where
  recordsRead : Int
  recordsWritten : Int
  recordsQuarantined : Int
  bytesRead : Int
  bytesWritten : Int
deriving DecidableEq

/-- `_NodeSnapshot`. -/
structure NodeSnapshot where
  aggregate : NodeAggregate
  earliestStartedAt : Option Instant
  latestFinishedAt : Option Instant
deriving DecidableEq

/-- `_snapshot`: the aggregate of one node's rows as they stand. -/
def snapshotNode (tables : ExecutionTables) (nodeId : NodeId) :
    Except RepositoryError NodeSnapshot := do
  let work := tables.workOf nodeId
  let attempts := attemptsOf work tables.attempts
  require (work.all fun item => item.state != .leased)
    (.corruption "run-node work state is corrupt")
  let aggregate := derivedAggregate nodeId tables.work tables.attempts
  require (aggregate.total ≤ maxRunStatisticsMetric)
    (.corruption "run-node work total is corrupt")
  require
    (aggregate.retryCount ≤ maxRunStatisticsMetric &&
      aggregate.durationMicroseconds ≤ Domain.maxDurationMicroseconds)
    (.corruption "run-node attempt aggregate is corrupt")
  return {
    aggregate := aggregate
    earliestStartedAt :=
      ((work.filterMap fun item => item.activeAttemptStartedAt) ++
        attempts.map fun attempt => attempt.startedAt).min?
    latestFinishedAt := (attempts.map fun attempt => attempt.finishedAt).max? }

/-- `_status_for`. -/
def statusFor (aggregate : NodeAggregate) (started : Bool) : RunNodeStatus :=
  if aggregate.total = 0 then .pending
  else if aggregate.pending ≠ 0 ∨ aggregate.running ≠ 0 then
    if started then .running else .pending
  else if aggregate.failed ≠ 0 then .failed
  else if aggregate.cancelled = aggregate.total then .cancelled
  else if aggregate.quarantined ≠ 0 ∨ aggregate.cancelled ≠ 0 then
    .partiallySucceeded
  else .succeeded

/-- `_replace`: no count may fall below zero. -/
def requireNonnegative (aggregate : NodeAggregate) :
    Except RepositoryError Unit :=
  require
    ([aggregate.total, aggregate.pending, aggregate.running,
        aggregate.succeeded, aggregate.quarantined, aggregate.failed,
        aggregate.cancelled, aggregate.retryCount,
        aggregate.durationMicroseconds].all fun value => 0 ≤ value)
    (.corruption "run-node aggregate history underflowed")

/-- `reverse_claim`. -/
def reverseClaim (aggregate : NodeAggregate) :
    Except RepositoryError NodeAggregate := do
  let prior :=
    { aggregate with
      pending := aggregate.pending + 1
      running := aggregate.running - 1 }
  requireNonnegative prior
  return prior

/-- `reverse_attempt`. -/
def reverseAttempt (aggregate : NodeAggregate) (attempt : WorkAttemptRecord)
    (state : Domain.WorkItemState) :
    Except RepositoryError NodeAggregate := do
  let running := aggregate.running + 1
  let bucket ←
    match state with
    | .pending | .retryWait =>
        .ok { aggregate with
          pending := aggregate.pending - 1, running := running }
    | .running => .ok aggregate
    | .succeeded =>
        .ok { aggregate with
          succeeded := aggregate.succeeded - 1, running := running }
    | .quarantined =>
        .ok { aggregate with
          quarantined := aggregate.quarantined - 1, running := running }
    | .failed =>
        .ok { aggregate with
          failed := aggregate.failed - 1, running := running }
    | .cancelled =>
        .ok { aggregate with
          cancelled := aggregate.cancelled - 1, running := running }
    | .leased =>
        .error (RepositoryError.corruption
          "transient work state reached durable aggregation")
  let prior :=
    { bucket with
      retryCount :=
        aggregate.retryCount - (if attempt.outcome.isRetry then 1 else 0)
      durationMicroseconds :=
        aggregate.durationMicroseconds - attempt.duration.microseconds }
  requireNonnegative prior
  return prior

/-- `_validate_prior`. -/
def validatePrior (node : RunNodeRecord) (prior : NodeAggregate)
    (earliestStartedAt : Option Instant) : Except RepositoryError Unit := do
  require
    (node.status == statusFor prior node.startedAt.isSome &&
      node.aggregate == prior)
    (.corruption "run-node aggregate drift was detected")
  require
    (node.startedAt.all fun started =>
      earliestStartedAt.all fun earliest => started == earliest)
    (.corruption "run-node start chronology has drifted")

/-- `_require_node`. -/
def requireNode (tables : ExecutionTables) (nodeId : NodeId) (expected : Int) :
    Except RepositoryError RunNodeRecord := do
  requireIncrementable expected "run-node row version"
  match tables.findNode nodeId with
  | none => .error (.recordNotFound "run node does not exist")
  | some node => do
      validateRunNode node
      require (node.rowVersion == expected)
        (.staleRowVersion "run-node row version is stale")
      return node

/-- `_update_node`: the row of a node, rewritten from an aggregate. -/
def updateNode (tables : ExecutionTables) (node : RunNodeRecord)
    (aggregate : NodeAggregate) (status : RunNodeStatus)
    (startedAt finishedAt : Option Instant) (delta : WorkMetricDelta) :
    Except RepositoryError (ExecutionTables × RunNodeRecord) :=
  match valid : validateDuration aggregate.durationMicroseconds with
  | .error _ => .error (.corruption "run-node record is corrupt")
  | .ok () => do
      let updated : RunNodeRecord :=
        { node with
          status := status
          rowVersion := node.rowVersion + 1
          workTotal := aggregate.total
          workPending := aggregate.pending
          workRunning := aggregate.running
          workSucceeded := aggregate.succeeded
          workQuarantined := aggregate.quarantined
          workFailed := aggregate.failed
          workCancelled := aggregate.cancelled
          recordsRead := node.recordsRead + delta.recordsRead
          recordsWritten := node.recordsWritten + delta.recordsWritten
          recordsQuarantined :=
            node.recordsQuarantined + delta.recordsQuarantined
          bytesRead := node.bytesRead + delta.bytesRead
          bytesWritten := node.bytesWritten + delta.bytesWritten
          retryCount := aggregate.retryCount
          duration := ⟨aggregate.durationMicroseconds, valid⟩
          startedAt := startedAt
          finishedAt := finishedAt }
      validateRunNode updated
      .ok (tables.setNode updated, updated)

/-- No metric moves. -/
def WorkMetricDelta.zero : WorkMetricDelta := ⟨0, 0, 0, 0, 0⟩

/-- `apply_claim`. -/
def applyClaim (tables : ExecutionTables) (claim : WorkClaim)
    (expectedNode : Int) :
    Except RepositoryError (ExecutionTables × RunNodeRecord) := do
  match ← getWork tables claim.workItemId with
  | none => .error (.recordNotFound "work item does not exist")
  | some work => do
      require (work.state == .running && claimMatches work claim)
        (.stateConflict "work claim does not match durable state")
      let node ← requireNode tables work.nodeId expectedNode
      require (node.startedAt.all fun started => started ≤ claim.startedAt)
        (.invalidRequest "work claim precedes run-node start")
      let current ← snapshotNode tables work.nodeId
      let prior ← reverseClaim current.aggregate
      validatePrior node prior current.earliestStartedAt
      updateNode tables node current.aggregate .running
        (node.startedAt.or (some claim.startedAt)) none WorkMetricDelta.zero

/-- `_validate_completed_work`. -/
def validateCompletedWork (durable : WorkItemRecord) (completed : CompletedWork)
    (checkpoint : Option CheckpointCommit) : Except RepositoryError Unit := do
  let work := completed.workItem
  let mismatch :=
    RepositoryError.stateConflict "completed work does not match durable state"
  require
    (durable.workItemId == work.workItemId && durable.runId == work.runId &&
      durable.nodeId == work.nodeId &&
      durable.partitionKey == work.partitionKey &&
      durable.state == work.state &&
      durable.completedAttemptCount == work.completedAttemptCount &&
      completed.attempt.workItemId == work.workItemId &&
      completed.attempt.attemptNumber.number == work.completedAttemptCount)
    mismatch
  match checkpoint with
  | none => require (decide (durable = work)) mismatch
  | some commit =>
      require
        (commit.work.workItemId == work.workItemId &&
          commit.work.runId == work.runId &&
          commit.work.nodeId == work.nodeId &&
          commit.work.partitionKey == work.partitionKey &&
          commit.work.rowVersion == durable.rowVersion &&
          commit.work.expectedCheckpointVersion ==
            durable.expectedCheckpointVersion &&
          commit.head.updatedAt == durable.updatedAt &&
          durable.rowVersion == work.rowVersion + 1 &&
          durable.expectedCheckpointVersion ==
            work.expectedCheckpointVersion + 1)
        (.stateConflict "checkpointed work does not match durable state")

/-- `_advance_metrics`. -/
def requireMetrics (node : RunNodeRecord) (delta : WorkMetricDelta) :
    Except RepositoryError Unit :=
  require
    ([node.recordsRead + delta.recordsRead,
        node.recordsWritten + delta.recordsWritten,
        node.recordsQuarantined + delta.recordsQuarantined,
        node.bytesRead + delta.bytesRead,
        node.bytesWritten + delta.bytesWritten].all
      fun value => value ≤ maxRunStatisticsMetric)
    (.stateConflict "run-node metric cannot advance beyond storage capacity")

/-- `apply_completion`. -/
def applyCompletion (tables : ExecutionTables) (completed : CompletedWork)
    (checkpoint : Option CheckpointCommit) (expectedNode : Int)
    (metrics : WorkMetricDelta) :
    Except RepositoryError (ExecutionTables × RunNodeRecord) := do
  match ← getWork tables completed.workItem.workItemId with
  | none => .error (.recordNotFound "work item does not exist")
  | some durable => do
      validateCompletedWork durable completed checkpoint
      let node ← requireNode tables durable.nodeId expectedNode
      let current ← snapshotNode tables durable.nodeId
      let prior ← reverseAttempt current.aggregate completed.attempt
        durable.state
      validatePrior node prior current.earliestStartedAt
      match node.status, node.startedAt with
      | .running, some started => do
          requireMetrics node metrics
          let status := statusFor current.aggregate true
          let finished :=
            if status = .running then none else current.latestFinishedAt
          require
            (status == .running || finished.any fun at_ => started ≤ at_)
            (.corruption "run-node terminal chronology is corrupt")
          updateNode tables node current.aggregate status (some started)
            finished metrics
      | _, _ => .error (.stateConflict "run node is not running")

/-- `apply_recovery`. -/
def applyRecovery (tables : ExecutionTables) (completed : CompletedWork)
    (expectedNode : Int) :
    Except RepositoryError (ExecutionTables × RunNodeRecord) := do
  require (completed.attempt.outcome == .leaseExpired)
    (.invalidRequest "recovery requires an expired-lease attempt")
  match ← getWork tables completed.workItem.workItemId with
  | none => .error (.recordNotFound "work item does not exist")
  | some durable => do
      validateCompletedWork durable completed none
      let node ← requireNode tables durable.nodeId expectedNode
      let current ← snapshotNode tables durable.nodeId
      let prior ← reverseAttempt current.aggregate completed.attempt
        durable.state
      validatePrior node prior current.earliestStartedAt
      match node.status, node.startedAt with
      | .running, some started =>
          updateNode tables node current.aggregate .running (some started) none
            WorkMetricDelta.zero
      | _, _ => .error (.stateConflict "run node is not running")

/-- `finalize_empty`. -/
def finalizeEmpty (tables : ExecutionTables) (nodeId : NodeId)
    (expectedNode : Int) (finalizedAt : Instant) :
    Except RepositoryError (ExecutionTables × RunNodeRecord) := do
  let node ← requireNode tables nodeId expectedNode
  let snapshot ← snapshotNode tables nodeId
  validatePrior node snapshot.aggregate snapshot.earliestStartedAt
  require (snapshot.aggregate.total == 0 && node.status == .pending)
    (.stateConflict "only an empty pending run node can be finalized")
  validateRunChronology tables.run
  require (tables.run.createdAt ≤ finalizedAt)
    (.invalidRequest "run-node finalization cannot precede its run")
  updateNode tables node snapshot.aggregate .succeeded (some finalizedAt)
    (some finalizedAt) WorkMetricDelta.zero

end Aggregates

end ParityGrid.Adapters.Persistence
