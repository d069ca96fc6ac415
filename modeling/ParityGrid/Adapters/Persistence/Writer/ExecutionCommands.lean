import ParityGrid.Adapters.Persistence.Writer.Dispatch

/-!
# Execution commands of the writer

The writer runs every command in a transaction of its own: a mutation of the
work item, one event, the aggregate of the node, and the next revision of the
run.  A command that raises leaves every row as it was.
-/

namespace ParityGrid.Adapters.Persistence

open ParityGrid.Foundation ParityGrid.Application
open ParityGrid.Domain (AttemptNumber NodeId PartitionKey PipelineId
  PipelineVersion RunId WorkItemId validateDuration)

/-- `WORK_LEASE_EVENT_PAYLOAD_SCHEMA_VERSION`. -/
def workLeaseEventPayloadSchemaVersion : Int := 2

section Commands

variable [CasefoldRuntime]

structure CreateCapturedRun where
  runId : RunId
  pipelineId : PipelineId
  pipelineVersion : PipelineVersion
  runnerKind : Text
  runnerConfiguration : ConfigurationDocument
  scenarioSeed : Option Int
  nodeIds : List NodeId
  createdAt : Instant
  event : EventAppendRequest

structure BootstrapWork where
  runId : RunId
  nodeId : NodeId
  workItemId : WorkItemId
  partitionKey : PartitionKey
  inputReference : Option ConfigurationDocument
  createdAt : Instant
  expectedNodeRowVersion : Int
  expectedRunRowVersion : Int
  event : EventAppendRequest

structure ClaimWork where
  runId : RunId
  nodeId : NodeId
  workItemId : WorkItemId
  expectedAttemptNumber : AttemptNumber
  expectedWorkRowVersion : Int
  expectedNodeRowVersion : Int
  expectedRunRowVersion : Int
  leaseOwner : Text
  startedAt : Instant
  leaseExpiresAt : Instant
  runnerKind : Text
  workerIdentity : Text
  event : EventAppendRequest

structure RenewWorkClaim where
  runId : RunId
  nodeId : NodeId
  claim : WorkClaim
  expectedRunRowVersion : Int
  renewedAt : Instant
  leaseExpiresAt : Instant
  event : EventAppendRequest

structure RecoverExpiredWork where
  runId : RunId
  nodeId : NodeId
  workItemId : WorkItemId
  expectedWorkRowVersion : Int
  expectedAttemptNumber : AttemptNumber
  observedAt : Instant
  retryAvailableAt : Instant
  redactedDetail : Option Text
  expectedNodeRowVersion : Int
  expectedRunRowVersion : Int
  event : EventAppendRequest

/-- The commands of `ExecutionCommand` on a run that exists. -/
inductive ExecutionCommand where
  | transition (command : TransitionRun)
  | bootstrap (command : BootstrapWork)
  | claim (command : ClaimWork)
  | renew (command : RenewWorkClaim)
  | commit (command : CommitCommand)
  | recover (command : RecoverExpiredWork)
  | finalizeEmpty (command : FinalizeEmptyRunNode)

namespace ExecutionCommand

def runId : ExecutionCommand → RunId
  | .transition command => command.runId
  | .bootstrap command => command.runId
  | .claim command => command.runId
  | .renew command => command.runId
  | .commit command => command.base.runId
  | .recover command => command.runId
  | .finalizeEmpty command => command.runId

/-- The run revision that a command names. -/
def expectedRun : ExecutionCommand → Int
  | .transition command => command.expectedRunRowVersion
  | .bootstrap command => command.expectedRunRowVersion
  | .claim command => command.expectedRunRowVersion
  | .renew command => command.expectedRunRowVersion
  | .commit command => command.base.expectedRunRowVersion
  | .recover command => command.expectedRunRowVersion
  | .finalizeEmpty command => command.expectedRunRowVersion

end ExecutionCommand

end Commands

/-! ## Validation -/

section Validation

variable [CasefoldRuntime]

/-- `_bounded_text`. -/
def requireBoundedText (value : Text) (subject : String) :
    Except WriterInvalidRequest Unit :=
  requireOptionalText (some value) subject

/-- `_validate_run_event`. -/
def validateRunEvent (request : EventAppendRequest) (runId : RunId)
    (eventKind : Text) : Except WriterInvalidRequest Unit := do
  requirePositive request.expectedCounterRowVersion "event counter row version"
  require (request.event.eventKind == eventKind)
    ⟨"durable event kind does not match its command"⟩
  require (request.event.subject == .run runId)
    ⟨"durable event run subject is inconsistent"⟩

/-- What the event of a lease says. -/
def leaseEventPayload (attempt : AttemptNumber) (leaseExpiresAt : Instant)
    (nodeId : NodeId) (runnerKind : Text) : List (Text × JsonValue) :=
  [(text "attempt_number", .int attempt.number),
    (text "lease_expires_at", .string (instantText leaseExpiresAt)),
    (text "node_id", .string nodeId.value),
    (text "runner_kind", .string runnerKind)]

/-- `_validate_work_lease_event`. -/
def validateWorkLeaseEvent (request : EventAppendRequest)
    (workItemId : WorkItemId) (nodeId : NodeId) (attempt : AttemptNumber)
    (runnerKind : Text) (occurredAt leaseExpiresAt : Instant)
    (eventKind : Text) : Except WriterInvalidRequest Unit := do
  let event ← validateWorkEvent request workItemId eventKind
  require (event.occurredAt == occurredAt)
    ⟨"durable lease event time is inconsistent"⟩
  require (event.payloadSchemaVersion == workLeaseEventPayloadSchemaVersion)
    ⟨"durable lease event schema is inconsistent"⟩
  require (event.payload.toMapping ==
      (JsonValue.object (leaseEventPayload attempt leaseExpiresAt nodeId
        runnerKind)).sortKeys)
    ⟨"durable lease event payload is inconsistent"⟩

/-- `expected_kind` of a transition; a run never returns to its queue. -/
def transitionEventKind : Domain.RunState → Option Text
  | .queued => none
  | .running => some (text "run_started")
  | .pausing => some (text "run_pausing")
  | .paused => some (text "run_paused")
  | .resuming => some (text "run_resuming")
  | .cancelling => some (text "run_cancelling")
  | .cancelled => some (text "run_cancelled")
  | .succeeded => some (text "run_succeeded")
  | .partiallySucceeded => some (text "run_partially_succeeded")
  | .failed => some (text "run_failed")

/-- `_validate_run_command` of a transition. -/
def validateTransition (command : TransitionRun) :
    Except WriterInvalidRequest Unit := do
  requirePositive command.expectedRunRowVersion "run row version"
  match transitionEventKind command.targetState with
  | none => .error ⟨"run transition target is invalid"⟩
  | some eventKind => do
      validateRunEvent command.event command.runId eventKind
      require (command.event.event.occurredAt == command.transitionedAt)
        ⟨"run transition event time is inconsistent"⟩

/-- `_validate_run_command` of a new run. -/
def validateCreation (command : CreateCapturedRun) :
    Except WriterInvalidRequest Unit := do
  requireBoundedText command.runnerKind "runner kind"
  require
    (command.scenarioSeed.all fun seed =>
      -9223372036854775808 ≤ seed && seed ≤ 9223372036854775807)
    ⟨"scenario seed is outside the supported range"⟩
  require (!command.nodeIds.isEmpty && decide command.nodeIds.Nodup)
    ⟨"run node identities are invalid"⟩
  validateRunEvent command.event command.runId (text "run_created")
  require (command.event.expectedNextSequence == 1)
    ⟨"created run event must start at sequence one"⟩
  require (command.event.expectedCounterRowVersion == 1)
    ⟨"created run event counter must start at row version one"⟩

/-- `validate_command`. -/
def validateCommand :
    ExecutionCommand → Except WriterInvalidRequest Unit
  | .transition command => validateTransition command
  | .bootstrap command => do
      let _ ← validateWorkEvent command.event command.workItemId
        (text "work_created")
      requirePositive command.expectedNodeRowVersion "node row version"
      requirePositive command.expectedRunRowVersion "run row version"
  | .claim command => do
      requireBoundedText command.leaseOwner "lease owner"
      requireBoundedText command.runnerKind "runner kind"
      requireBoundedText command.workerIdentity "worker identity"
      validateWorkLeaseEvent command.event command.workItemId command.nodeId
        command.expectedAttemptNumber command.runnerKind command.startedAt
        command.leaseExpiresAt (text "work_claimed")
      requirePositive command.expectedWorkRowVersion "work row version"
      requirePositive command.expectedNodeRowVersion "node row version"
      requirePositive command.expectedRunRowVersion "run row version"
  | .renew command => do
      validateWorkLeaseEvent command.event command.claim.workItemId
        command.nodeId command.claim.attemptNumber command.claim.runnerKind
        command.renewedAt command.leaseExpiresAt (text "work_claim_renewed")
      requirePositive command.expectedRunRowVersion "run row version"
  | .commit command => validateCompletionCommand command
  | .recover command => do
      requireOptionalText command.redactedDetail "recovery detail"
      let _ ← validateWorkEvent command.event command.workItemId
        (text "work_lease_expired")
      requirePositive command.expectedWorkRowVersion "work row version"
      requirePositive command.expectedNodeRowVersion "node row version"
      requirePositive command.expectedRunRowVersion "run row version"
  | .finalizeEmpty command => do
      validateRunEvent command.event command.runId (text "run_node_succeeded")
      requirePositive command.expectedNodeRowVersion "node row version"
      requirePositive command.expectedRunRowVersion "run row version"

end Validation

/-! ## New rows -/

theorem zeroDuration_valid : validateDuration 0 = .ok () := rfl

section Creation

variable [CasefoldRuntime]

/-- What a transaction of the writer raises. -/
inductive CommandFailure where
  /-- `ExecutionDuplicateError`. -/
  | duplicate (message : String)
  | repository (error : RepositoryError)
deriving DecidableEq

/-- A node as the table's defaults fill it in. -/
def newNode (runId : RunId) (nodeId : NodeId) : RunNodeRecord where
  runId := runId
  nodeId := nodeId
  status := .pending
  rowVersion := 1
  workTotal := 0
  workPending := 0
  workRunning := 0
  workSucceeded := 0
  workQuarantined := 0
  workFailed := 0
  workCancelled := 0
  recordsRead := 0
  recordsWritten := 0
  recordsQuarantined := 0
  bytesRead := 0
  bytesWritten := 0
  retryCount := 0
  duration := ⟨0, zeroDuration_valid⟩
  startedAt := none
  finishedAt := none

/-- What a new run reads of the pipeline version that it names. -/
structure PipelineParent where
  archivedAt : Option Instant
  publishedAt : Instant

/-- `SqlAlchemyRunRepository.create`, of an identity that is not in use. -/
def createRun (parent : Option PipelineParent) (command : CreateCapturedRun) :
    Except RepositoryError ExecutionTables := do
  optionalText (some command.runnerKind) "runner kind" 32
  let configuration ← (storeDocument command.runnerConfiguration
    "runner configuration").mapError executionError
  require
    (command.scenarioSeed.all fun seed =>
      -9223372036854775808 ≤ seed && seed ≤ 9223372036854775807)
    (.invalidRequest
      "scenario seed must be a signed integer within the SQLite range or null")
  require (!command.nodeIds.isEmpty)
    (.invalidRequest "run nodes must be a nonempty sequence")
  require (decide command.nodeIds.Nodup)
    (.invalidRequest "run node identifiers must be unique")
  match parent with
  | none => .error (.recordNotFound "pipeline version does not exist")
  | some parent => do
      require parent.archivedAt.isNone
        (.stateConflict "archived pipeline cannot create runs")
      require (parent.publishedAt ≤ command.createdAt)
        (.invalidRequest "run creation cannot precede pipeline publication")
      let run : RunRecord :=
        { runId := command.runId
          pipelineId := command.pipelineId
          pipelineVersion := command.pipelineVersion
          runnerKind := command.runnerKind
          runnerConfiguration := configuration
          state := .queued
          rowVersion := 1
          scenarioSeed := command.scenarioSeed
          createdAt := command.createdAt
          startedAt := none
          finishedAt := none
          cancellationRequestedAt := none
          recoveryStartedAt := none
          recoveredAt := none
          executionEvidenceFingerprint := none
          executionEvidenceFingerprintVersion := none }
      validateRunChronology run
      return {
        run := run
        counter := ⟨1, 1⟩
        events := []
        nodes := (sortedBy (fun nodeId => nodeId.value) command.nodeIds).map
          (newNode command.runId)
        work := []
        attempts := []
        heads := []
        checkpoints := []
        artifacts := [] }

/-- `_create_run`. -/
def createCapturedRun (parent : Option PipelineParent)
    (command : CreateCapturedRun) :
    Except RepositoryError (ExecutionTables × ExecutionEventBatch) := do
  (validateCreation command).mapError fun error =>
    .writerInvalidRequest error.message
  let tables ← createRun parent command
  appendEvent tables command.event

/-- The rows that a new work item inserts. -/
def newWork (command : BootstrapWork)
    (reference : Option ConfigurationDocument) : WorkItemRecord where
  workItemId := command.workItemId
  runId := command.runId
  nodeId := command.nodeId
  partitionKey := command.partitionKey
  state := .pending
  rowVersion := 1
  completedAttemptCount := 0
  expectedCheckpointVersion := 0
  inputReference := reference
  retryAvailableAt := none
  leaseOwner := none
  leaseExpiresAt := none
  activeAttemptNumber := none
  activeAttemptStartedAt := none
  activeRunnerKind := none
  activeWorkerIdentity := none
  createdAt := command.createdAt
  updatedAt := command.createdAt

def newHead (work : WorkItemRecord) : CheckpointHeadRecord where
  nodeId := work.nodeId
  partitionKey := work.partitionKey
  currentVersion := 0
  updatedAt := work.createdAt
  rowVersion := 1

/-- The tables with a new work item and its checkpoint head. -/
def ExecutionTables.insertWork (tables : ExecutionTables)
    (work : WorkItemRecord) : ExecutionTables :=
  { tables with
    work := tables.work ++ [work]
    heads := tables.heads ++ [newHead work] }

/-- `SqlAlchemyWorkItemRepository.create`. -/
def createWork (tables : ExecutionTables) (command : BootstrapWork) :
    Except CommandFailure (ExecutionTables × WorkItemRecord) := do
  let reference ← (storeOptionalDocument command.inputReference
    "work input reference").mapError fun error =>
      .repository (executionError error)
  match tables.findNode command.nodeId with
  | none => .error (.repository (.recordNotFound "run node does not exist"))
  | some node => do
      (validateRunChronology tables.run).mapError .repository
      (validateRunNode node).mapError .repository
      require (tables.run.state == .queued || tables.run.state == .running)
        (.repository
          (.stateConflict "run state does not permit work-item creation"))
      require (tables.run.createdAt ≤ command.createdAt)
        (.repository
          (.invalidRequest "work-item creation cannot precede its run"))
      require
        ((tables.findWork command.workItemId).isNone &&
          (tables.findPartition command.nodeId command.partitionKey).isNone)
        (.duplicate "work item identity or partition already exists")
      let work := newWork command reference
      let after := tables.insertWork work
      (readBack after work).mapError .repository
      .ok (after, work)

/-- `reverse_registration`. -/
def reverseRegistration (aggregate : NodeAggregate) :
    Except RepositoryError NodeAggregate := do
  let prior :=
    { aggregate with
      total := aggregate.total - 1
      pending := aggregate.pending - 1 }
  requireNonnegative prior
  return prior

/-- `register_work`. -/
def registerWork (tables : ExecutionTables) (installed : WorkItemRecord)
    (expectedNode : Int) :
    Except RepositoryError (ExecutionTables × RunNodeRecord) := do
  require (installed.state == .pending)
    (.invalidRequest "registered work item must be pending")
  match ← getWork tables installed.workItemId with
  | none => .error (.recordNotFound "work item does not exist")
  | some durable => do
      require (decide (durable = installed))
        (.stateConflict "registered work item does not match storage")
      let node ← requireNode tables installed.nodeId expectedNode
      let current ← snapshotNode tables installed.nodeId
      require (node.status == .pending || node.status == .running)
        (.stateConflict "terminal run node cannot register work")
      let prior ← reverseRegistration current.aggregate
      validatePrior node prior current.earliestStartedAt
      updateNode tables node current.aggregate node.status node.startedAt none
        WorkMetricDelta.zero

end Creation

/-! ## Handlers -/

section Handlers

variable [CasefoldRuntime]

/-- The result of a handler. -/
inductive ExecutionResult where
  | transition (run : RunRecord) (events : ExecutionEventBatch)
  | bootstrap (work : WorkItemRecord) (node : RunNodeRecord)
      (events : ExecutionEventBatch) (run : RunRecord)
  | claim (claim : WorkClaim) (node : RunNodeRecord)
      (events : ExecutionEventBatch) (run : RunRecord)
  | renew (claim : WorkClaim) (events : ExecutionEventBatch) (run : RunRecord)
  | commit (completed : CompletedWork) (node : RunNodeRecord)
      (checkpoint : Option CheckpointCommit) (events : ExecutionEventBatch)
      (run : RunRecord)
  | recover (completed : CompletedWork) (node : RunNodeRecord)
      (events : ExecutionEventBatch) (run : RunRecord)
  | finalizeEmpty (node : RunNodeRecord) (events : ExecutionEventBatch)
      (run : RunRecord)

/-- `_require_work_parent`. -/
def requireWorkParent (work : WorkItemRecord) (runId : RunId)
    (nodeId : NodeId) : Except RepositoryError Unit :=
  require (work.runId == runId && work.nodeId == nodeId)
    (.writerInvalidRequest "work item belongs to another run or node")

/-- `_require_claim_parent`. -/
def requireClaimParent (tables : ExecutionTables) (claim : WorkClaim)
    (runId : RunId) (nodeId : NodeId) : Except RepositoryError Unit := do
  match ← getWork tables claim.workItemId with
  | none =>
      .error (.writerInvalidRequest "work claim parent does not exist")
  | some work => requireWorkParent work runId nodeId

/-- `_transition_run`. -/
def transitionCommand (tables : ExecutionTables) (command : TransitionRun) :
    Except RepositoryError (ExecutionTables × ExecutionResult) := do
  let moved ← transitionRun tables command.expectedRunRowVersion
    command.targetState command.transitionedAt
    command.executionEvidenceFingerprint
    command.executionEvidenceFingerprintVersion
  let (after, events) ← appendEvent moved command.event
  return (after, .transition after.run events)

/-- `_bootstrap_work`. -/
def bootstrapWork (tables : ExecutionTables) (command : BootstrapWork) :
    Except CommandFailure (ExecutionTables × ExecutionResult) := do
  let (created, work) ← createWork tables command
  let finish : Except RepositoryError (ExecutionTables × ExecutionResult) := do
    requireWorkParent work command.runId command.nodeId
    let (logged, events) ← appendEvent created command.event
    let (counted, node) ← registerWork logged work
      command.expectedNodeRowVersion
    let after ← advanceRun counted command.expectedRunRowVersion
    return (after, .bootstrap work node events after.run)
  finish.mapError .repository

/-- What a claim asks of the repository. -/
def leaseOf (command : ClaimWork) : ClaimRequest where
  leaseOwner := command.leaseOwner
  startedAt := command.startedAt
  leaseExpiresAt := command.leaseExpiresAt
  runnerKind := command.runnerKind
  workerIdentity := command.workerIdentity

/-- `_claim_work`. -/
def claimCommand (tables : ExecutionTables) (command : ClaimWork) :
    Except RepositoryError (ExecutionTables × ExecutionResult) := do
  let (claimed, claim) ← claimWork tables command.workItemId
    command.expectedWorkRowVersion (leaseOf command)
  require (claim.attemptNumber == command.expectedAttemptNumber)
    (.writerInvalidRequest "claimed attempt number is inconsistent")
  requireClaimParent claimed claim command.runId command.nodeId
  let (logged, events) ← appendEvent claimed command.event
  let (counted, node) ← applyClaim logged claim command.expectedNodeRowVersion
  let after ← advanceRun counted command.expectedRunRowVersion
  return (after, .claim claim node events after.run)

/-- `_renew_claim`. -/
def renewCommand (tables : ExecutionTables) (command : RenewWorkClaim) :
    Except RepositoryError (ExecutionTables × ExecutionResult) := do
  let (renewed, claim) ← renewClaim tables command.claim command.renewedAt
    command.leaseExpiresAt
  requireClaimParent renewed claim command.runId command.nodeId
  let (logged, events) ← appendEvent renewed command.event
  let after ← advanceRun logged command.expectedRunRowVersion
  return (after, .renew claim events after.run)

/-- The checkpoint that a command appends behind a completed item, if any. -/
def appendCommandCheckpoint (tables : ExecutionTables)
    (work : WorkItemRecord) : Option CheckpointWrite →
      Except RepositoryError (ExecutionTables × Option CheckpointCommit)
  | none => .ok (tables, none)
  | some checkpoint => do
      require (work.partitionKey == checkpoint.expectedPartitionKey)
        (.stateConflict "checkpoint partition does not match durable work")
      let (after, commit) ← appendCheckpoint tables work checkpoint
      return (after, some commit)

/-- `_commit_without_checkpoint` and `_commit_with_checkpoint`. -/
def commitCommand (tables : ExecutionTables) (command : CommitCommand) :
    Except RepositoryError (ExecutionTables × ExecutionResult) := do
  let (released, completed) ← completeClaim tables command.base.claim
    command.base.completion
  requireWorkParent completed.workItem command.base.runId command.base.nodeId
  let (installed, checkpoint) ← appendCommandCheckpoint released
    completed.workItem command.checkpoint?
  let (logged, events) ← appendEvent installed command.base.event
  let (counted, node) ← applyCompletion logged completed checkpoint
    command.base.expectedNodeRowVersion command.base.metrics
  let after ← advanceRun counted command.base.expectedRunRowVersion
  return (after, .commit completed node checkpoint events after.run)

/-- `_recover_work`. -/
def recoverCommand (tables : ExecutionTables) (command : RecoverExpiredWork) :
    Except RepositoryError (ExecutionTables × ExecutionResult) := do
  let (released, completed) ← recoverExpiredClaim tables command.workItemId
    command.expectedWorkRowVersion command.expectedAttemptNumber
    command.observedAt command.retryAvailableAt command.redactedDetail
  requireWorkParent completed.workItem command.runId command.nodeId
  let (logged, events) ← appendEvent released command.event
  let (counted, node) ← applyRecovery logged completed
    command.expectedNodeRowVersion
  let after ← advanceRun counted command.expectedRunRowVersion
  return (after, .recover completed node events after.run)

/-- `_finalize_empty`. -/
def finalizeEmptyCommand (tables : ExecutionTables)
    (command : FinalizeEmptyRunNode) :
    Except RepositoryError (ExecutionTables × ExecutionResult) := do
  let (logged, events) ← appendEvent tables command.event
  let (counted, node) ← finalizeEmpty logged command.nodeId
    command.expectedNodeRowVersion command.finalizedAt
  let after ← advanceRun counted command.expectedRunRowVersion
  return (after, .finalizeEmpty node events after.run)

/-- `dispatch_command`, of a command on the run of the tables. -/
def dispatchCommand (tables : ExecutionTables) (command : ExecutionCommand) :
    Except CommandFailure (ExecutionTables × ExecutionResult) := do
  (validateCommand command).mapError fun error =>
    .repository (.writerInvalidRequest error.message)
  match command with
  | .transition command =>
      (transitionCommand tables command).mapError .repository
  | .bootstrap command => bootstrapWork tables command
  | .claim command => (claimCommand tables command).mapError .repository
  | .renew command => (renewCommand tables command).mapError .repository
  | .commit command => (commitCommand tables command).mapError .repository
  | .recover command => (recoverCommand tables command).mapError .repository
  | .finalizeEmpty command =>
      (finalizeEmptyCommand tables command).mapError .repository

end Handlers

end ParityGrid.Adapters.Persistence
