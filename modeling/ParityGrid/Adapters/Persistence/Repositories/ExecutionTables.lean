import ParityGrid.Adapters.Persistence.Repositories.ConsistencyCommon
import ParityGrid.Application.Ports.Events

/-!
# The rows of one run

The tables hold the run, its event counter and events, its nodes, its work
items with their attempts, and the checkpoint frontier of every partition.
Rows are listed in the order of their keys and updated in place, each update a
compare-and-set of the row version.
-/

namespace ParityGrid.Adapters.Persistence

open ParityGrid.Foundation ParityGrid.Application
open ParityGrid.Domain (ArtifactId NodeId PartitionKey RunId StateFingerprint
  WorkItemId)

/-- What a repository raises inside a transaction of the writer. -/
inductive RepositoryError where
  | recordNotFound (message : String)
  | staleRowVersion (message : String)
  | stateConflict (message : String)
  | invalidRequest (message : String)
  /-- `ExecutionLeaseMismatchError` and `ExecutionLeaseExpiredError`. -/
  | leaseLost (message : String)
  | corruption (message : String)
  /-- `InvalidTransitionError`. -/
  | invalidTransition
  /-- `WriterInvalidRequestError`. -/
  | writerInvalidRequest (message : String)
  | consistency (error : ConsistencyError)
deriving DecidableEq

/-! ## Lifecycle arrows -/

/-- `RUN_TRANSITIONS`. -/
def canTransitionRun : Domain.RunState → Domain.RunState → Bool
  | .queued, .running => true
  | .queued, .cancelled => true
  | .running, .pausing => true
  | .running, .succeeded => true
  | .running, .partiallySucceeded => true
  | .running, .failed => true
  | .running, .cancelling => true
  | .pausing, .paused => true
  | .paused, .resuming => true
  | .resuming, .running => true
  | .cancelling, .cancelled => true
  | _, _ => false

/-- `RunState.is_terminal`. -/
def isTerminalRun : Domain.RunState → Bool
  | .succeeded => true
  | .partiallySucceeded => true
  | .failed => true
  | .cancelled => true
  | _ => false

/-! ## Rows -/

@[ext]
structure EventCounterRecord where
  nextSequence : Int
  rowVersion : Int
deriving DecidableEq

structure CheckpointHeadRecord where
  nodeId : NodeId
  partitionKey : PartitionKey
  currentVersion : Int
  updatedAt : Instant
  rowVersion : Int
deriving DecidableEq

structure CheckpointRecord [PythonRuntime] where
  nodeId : NodeId
  partitionKey : PartitionKey
  version : Int
  payloadSchemaVersion : Int
  sourceCursor : Option ConfigurationDocument
  outputPosition : Option ConfigurationDocument
  artifactId : Option ArtifactId
  committedAt : Instant
deriving DecidableEq

/-- The columns of an artifact manifest that a checkpoint refers to. -/
structure ArtifactKey where
  artifactId : ArtifactId
  nodeId : NodeId
  partitionKey : PartitionKey
  createdAt : Instant
deriving DecidableEq

section Tables

variable [CasefoldRuntime]

structure ExecutionTables where
  run : RunRecord
  counter : EventCounterRecord
  events : List ExecutionEventRecord
  nodes : List RunNodeRecord
  work : List WorkItemRecord
  attempts : List WorkAttemptRecord
  heads : List CheckpointHeadRecord
  checkpoints : List CheckpointRecord
  artifacts : List ArtifactKey
deriving DecidableEq

namespace ExecutionTables

variable (tables : ExecutionTables)

/-- `update(run_nodes)` of one row. -/
def setNode (node : RunNodeRecord) : ExecutionTables :=
  { tables with
    nodes := tables.nodes.map fun row =>
      if row.nodeId = node.nodeId then node else row }

/-- `update(work_items)` of one row. -/
def setWork (work : WorkItemRecord) : ExecutionTables :=
  { tables with
    work := tables.work.map fun row =>
      if row.workItemId = work.workItemId then work else row }

/-- `update(checkpoint_heads)` of one row. -/
def setHead (head : CheckpointHeadRecord) : ExecutionTables :=
  { tables with
    heads := tables.heads.map fun row =>
      if row.nodeId = head.nodeId ∧ row.partitionKey = head.partitionKey
      then head else row }

def findNode (nodeId : NodeId) : Option RunNodeRecord :=
  tables.nodes.find? fun row => row.nodeId == nodeId

def findWork (workItemId : WorkItemId) : Option WorkItemRecord :=
  tables.work.find? fun row => row.workItemId == workItemId

def findHead (nodeId : NodeId) (partitionKey : PartitionKey) :
    Option CheckpointHeadRecord :=
  tables.heads.find? fun row =>
    row.nodeId == nodeId && row.partitionKey == partitionKey

/-- The work items of one node. -/
def workOf (nodeId : NodeId) : List WorkItemRecord :=
  tables.work.filter fun row => row.nodeId == nodeId

/-- The attempts of one work item. -/
def attemptsOfItem (workItemId : WorkItemId) : List WorkAttemptRecord :=
  tables.attempts.filter fun row => row.workItemId == workItemId

end ExecutionTables

/-! ## Checks shared by the repositories -/

/-- `require_incrementable`. -/
def requireIncrementable (value : Int) (subject : String) :
    Except RepositoryError Unit :=
  require (value < maxConsistencySequence)
    (.stateConflict (subject ++ " cannot advance beyond the supported maximum"))

/-- `_validate_run_chronology`. -/
def validateRunChronology (run : RunRecord) : Except RepositoryError Unit := do
  let times := [run.startedAt, run.finishedAt, run.cancellationRequestedAt,
    run.recoveryStartedAt, run.recoveredAt]
  require (times.all fun time => time.all fun at_ => run.createdAt ≤ at_)
    (.corruption "run timestamps are corrupt")
  require
    (run.finishedAt.all fun finished =>
      run.startedAt.all fun started => started ≤ finished)
    (.corruption "run timestamps are corrupt")
  require
    (run.recoveredAt.all fun recovered =>
      run.recoveryStartedAt.any fun started => started ≤ recovered)
    (.corruption "run recovery timestamps are corrupt")
  require (isTerminalRun run.state == run.finishedAt.isSome)
    (.corruption "run terminal timestamp is corrupt")
  require
    ((run.state == .succeeded || run.state == .partiallySucceeded) ==
      run.executionEvidenceFingerprint.isSome)
    (.corruption "run final fingerprint is corrupt")
  require
    (run.executionEvidenceFingerprintVersion.all fun version => version == 2)
    (.corruption "run execution-evidence version is unsupported")
  require
    (run.state == .queued || run.state == .cancelled || run.startedAt.isSome)
    (.corruption "run start time is corrupt")
  require (!(run.state == .queued && run.startedAt.isSome))
    (.corruption "queued run start time is corrupt")
  require
    ((run.state == .cancelling || run.state == .cancelled) ==
      run.cancellationRequestedAt.isSome)
    (.corruption "run cancellation time is corrupt")
  require
    (run.finishedAt.all fun finished =>
      run.cancellationRequestedAt.all fun requested => requested ≤ finished)
    (.corruption "run cancellation chronology is corrupt")

/-- `_validate_work_item_coherence`. -/
def validateWorkItemCoherence (work : WorkItemRecord) :
    Except RepositoryError Unit := do
  require (work.createdAt ≤ work.updatedAt)
    (.corruption "work-item timestamps are corrupt")
  match work.leaseOwner, work.leaseExpiresAt, work.activeAttemptNumber,
      work.activeAttemptStartedAt, work.activeRunnerKind,
      work.activeWorkerIdentity with
  | some _, some expires, some attempt, some started, some _, some _ => do
      require (work.state == .running)
        (.corruption "inactive work-item claim is corrupt")
      require (attempt.number == work.completedAttemptCount + 1)
        (.corruption "work-item active attempt is corrupt")
      require (started < expires)
        (.corruption "work-item lease timestamps are corrupt")
      require (work.createdAt ≤ started)
        (.corruption "work-item active start time is corrupt")
      require (started ≤ work.updatedAt)
        (.corruption "work-item active update time is corrupt")
      require (work.updatedAt < expires)
        (.corruption "work-item active lease time is corrupt")
  | none, none, none, none, none, none =>
      require (work.state != .running)
        (.corruption "work-item active claim is corrupt")
  | _, _, _, _, _, _ =>
      .error (.corruption (if work.state = .running
        then "work-item active claim is corrupt"
        else "inactive work-item claim is corrupt"))
  require ((work.state == .retryWait) == work.retryAvailableAt.isSome)
    (.corruption "work-item retry time is corrupt")
  require (work.retryAvailableAt.all fun retry => work.updatedAt ≤ retry)
    (.corruption "work-item retry chronology is corrupt")

/-- `run_node_from_row`. -/
def validateRunNode (node : RunNodeRecord) : Except RepositoryError Unit := do
  require
    (node.workPending + node.workRunning + node.workSucceeded +
      node.workQuarantined + node.workFailed + node.workCancelled ≤
      node.workTotal)
    (.corruption "run-node work counts are corrupt")
  match node.status with
  | .pending =>
      require (node.startedAt.isNone && node.finishedAt.isNone)
        (.corruption "pending run-node timestamps are corrupt")
  | .running =>
      require (node.startedAt.isSome && node.finishedAt.isNone)
        (.corruption "running run-node timestamps are corrupt")
  | _ =>
      require
        (node.startedAt.any fun started =>
          node.finishedAt.any fun finished => started ≤ finished)
        (.corruption "completed run-node timestamps are corrupt")

end Tables

section Sample

attribute [local instance] asciiCasefoldRuntime

/-- A running run without any other row. -/
def runningTables : ExecutionTables where
  run := {
    runId := ⟨text "run_first", sampleRun_valid⟩
    pipelineId := ⟨text "pip_inventory", samplePipeline_valid⟩
    pipelineVersion := ⟨⟨3, thirdNumber_valid⟩⟩
    runnerKind := text "threaded"
    runnerConfiguration := ⟨[], emptyDocument_valid⟩
    state := .running
    rowVersion := 4
    scenarioSeed := none
    createdAt := 0
    startedAt := some 0
    finishedAt := none
    cancellationRequestedAt := none
    recoveryStartedAt := none
    recoveredAt := none
    executionEvidenceFingerprint := none
    executionEvidenceFingerprintVersion := none }
  counter := ⟨1, 1⟩
  events := []
  nodes := []
  work := []
  attempts := []
  heads := []
  checkpoints := []
  artifacts := []

end Sample

end ParityGrid.Adapters.Persistence
