import ParityGrid.Application.Execution.ResultCoordinator
import ParityGrid.Application.Writes.Execution

/-!
# From a commit intent to a writer command

The factory derives every field of the command from the intent; the adapter
compares the command with the intent once more before the writer sees it.
-/

namespace ParityGrid.Application

open ParityGrid.Foundation
open ParityGrid.Domain (ArtifactId AttemptNumber FailureClassification
  Identifier NodeId PartitionKey RunId WorkItemId)
open ParityGrid.Adapters.Persistence (WorkMetricDelta)

/-- `ResultValidationRejection`, or any other exception. -/
inductive FactoryError where
  | rejection (message : String)
  | escaped (error : PythonError)
  | redaction (error : ConsistencyError)
deriving DecidableEq

/-- `_CHECKPOINT_PAYLOAD_SCHEMA_VERSION`. -/
def checkpointPayloadSchemaVersion : Int := 1

/-- `_OUTCOME_TARGET_STATES`. -/
def ContractOutcome.targetState : ContractOutcome → Domain.WorkItemState
  | .succeeded => .succeeded
  | .retryWait => .retryWait
  | .quarantined => .quarantined
  | .failed => .failed
  | .cancelled => .cancelled

/-- `_from_micros`: adding to the epoch overflows after the last timestamp. -/
def timestampFromMicros (value : Int) (subject : String) :
    Except FactoryError Instant := do
  require (0 ≤ value)
    (.rejection (subject ++ " is outside the supported range"))
  require (value ≤ maxInstant) (.escaped .overflowError)
  .ok value

/-- `_require_classification`. -/
def requireClassification (intent : CommitIntent) :
    Except FactoryError (Option FailureClassification) :=
  if intent.outcome = .succeeded then do
    require intent.failureClassification.isNone
      (.rejection "successful results cannot carry a failure classification")
    .ok none
  else
    match intent.failureClassification with
    | none =>
        .error (.rejection
          "unsuccessful results require a failure classification")
    | some classification => .ok (some classification)

/-! ## Metrics -/

/-- `_METRIC_NAMES`. -/
def metricNames : List Text :=
  ["records_read", "records_written", "records_quarantined", "bytes_read",
    "bytes_written"].map text

/-- One pass of the loop in `_metric_map`. -/
def recordMetric (metrics : List (Text × Int)) (metric : ContractMetric) :
    Except FactoryError (List (Text × Int)) :=
  match metrics.lookup metric.name with
  | none =>
      .error (.rejection
        "result metric name is not part of the durable metric set")
  | some current => do
      require (current == 0) (.rejection "result metric name is repeated")
      require (metric.value ≤ maxMetricValue)
        (.rejection "result metric value exceeds the durable bound")
      .ok (alter metric.name (fun _ => metric.value) metrics)

/-- `_metric_map`. -/
def metricMap (result : WorkResultV1) :
    Except FactoryError (List (Text × Int)) :=
  result.metrics.foldlM recordMetric (metricNames.map fun name => (name, 0))

/-- `metrics[name]`, of a name that the map always has. -/
def metricValue (metrics : List (Text × Int)) (name : String) : Int :=
  (metrics.lookup (text name)).getD 0

/-- `_metric_delta`. -/
def metricDelta (metrics : List (Text × Int)) : WorkMetricDelta where
  recordsRead := metricValue metrics "records_read"
  recordsWritten := metricValue metrics "records_written"
  recordsQuarantined := metricValue metrics "records_quarantined"
  bytesRead := metricValue metrics "bytes_read"
  bytesWritten := metricValue metrics "bytes_written"

/-! ## The command -/

/-- The constructor of an identifier, whose `ValueError` nobody translates. -/
def identifierOf (kind : Domain.IdentifierKind) (value : Text) :
    Except FactoryError (Identifier kind) :=
  (Identifier.create kind value).mapError .escaped

/-- `PartitionKey(value)`. -/
def partitionKeyOf (value : Text) : Except FactoryError PartitionKey :=
  match valid : Domain.validateStableText .partitionKey value with
  | .ok () => .ok ⟨value, valid⟩
  | .error error => .error (.escaped error)

/--
`AttemptNumber(_attempt_number(value))`: the function and the constructor have
one range.
-/
def attemptNumberOf (value : Int) : Except FactoryError AttemptNumber :=
  match valid : Domain.validateSequenceNumber value with
  | .ok () => .ok ⟨⟨value, valid⟩⟩
  | .error _ =>
      .error (.rejection "attempt number is outside the supported range")

/-- The times of an intent as timestamps. -/
structure IntentTimes where
  finishedAt : Instant
  startedAt : Instant
  expiresAt : Instant
  retryAvailableAt : Option Instant
deriving DecidableEq

/-- The retry time of a result that is to be retried. -/
def retryTime (intent : CommitIntent) (finishedAt : Instant) :
    Except FactoryError (Option Instant) :=
  if intent.outcome.targetState = .retryWait then do
    let retryAvailableAt ←
      timestampFromMicros intent.retryEligibleAtMicros "retry eligibility"
    require (!decide (retryAvailableAt < finishedAt))
      (.rejection "retry eligibility precedes the result")
    .ok (some retryAvailableAt)
  else
    .ok none

/-- The times of `build`, in the order in which it converts and compares them. -/
def intentTimes (intent : CommitIntent) : Except FactoryError IntentTimes := do
  let finishedAt ←
    timestampFromMicros intent.observedAtMicros "result observation time"
  let startedAt ← timestampFromMicros intent.startedAtMicros "attempt start time"
  let expiresAt ← timestampFromMicros intent.leaseExpiresAtMicros "lease expiry"
  require (!decide (startedAt > finishedAt))
    (.rejection "attempt start follows its observation")
  require (!decide (finishedAt > expiresAt))
    (.rejection "result observation follows lease expiry")
  let retryAvailableAt ← retryTime intent finishedAt
  .ok { finishedAt, startedAt, expiresAt, retryAvailableAt }

section Build

variable [CasefoldRuntime]

/-- `checkpoint_proposed` of `build`. -/
def CommitIntent.proposesCheckpoint (intent : CommitIntent) : Bool :=
  intent.outcome.targetState == .succeeded && intent.checkpointProposed

/-- `payload` of `_completion_event`. -/
def intentPayload (intent : CommitIntent) (claim : WorkClaim)
    (classification : Option FailureClassification)
    (retryAvailableAt : Option Instant) : List (Text × JsonValue) :=
  completionPayload claim intent.nodeId intent.outcome.targetState
      classification retryAvailableAt ++
    if intent.proposesCheckpoint then
      checkpointPayload intent.artifactIds.head? checkpointPayloadSchemaVersion
        intent.partitionKey
    else []

/-- `_completion_event`. -/
def completionEvent (correlationId : Option Text) (intent : CommitIntent)
    (claim : WorkClaim) (classification : Option FailureClassification)
    (times : IntentTimes) : Except FactoryError EventAppendRequest := do
  let payload ← (RedactedDocument.fromMapping
    (intentPayload intent claim classification
      times.retryAvailableAt)).mapError .redaction
  .ok {
    expectedNextSequence := intent.nextEventSequence
    expectedCounterRowVersion := intent.eventCounterRowVersion
    event := {
      eventKind :=
        if intent.proposesCheckpoint then text "checkpoint_committed"
        else text "work_" ++ text intent.outcome.targetState.value
      occurredAt := times.finishedAt
      subject := .workItem claim.workItemId
      correlationId
      payloadSchemaVersion := workResultEventPayloadSchemaVersion
      payload } }

/-- The claim that `build` derives from an intent. -/
def intentClaim (intent : CommitIntent) (times : IntentTimes) :
    Except FactoryError WorkClaim := do
  let workItemId ← identifierOf .workItem intent.workItemId
  let attemptNumber ← attemptNumberOf intent.attemptNumber
  .ok {
    workItemId
    attemptNumber
    leaseOwner := intent.leaseOwner
    rowVersion := intent.leaseFence
    startedAt := times.startedAt
    leaseExpiresAt := times.expiresAt
    runnerKind := intent.runnerKind
    workerIdentity := intent.workerIdentity }

/-- `WorkCompletion(...)` of `build`. -/
def intentCompletion (intent : CommitIntent) (times : IntentTimes)
    (classification : Option FailureClassification)
    (metrics : List (Text × Int)) : WorkCompletion where
  targetState := intent.outcome.targetState
  finishedAt := times.finishedAt
  retryAvailableAt := times.retryAvailableAt
  failureClassification := classification
  redactedDetail := intent.result.failureDetail
  resultReference := none
  recordsProcessed := metricValue metrics "records_read"
  bytesProcessed := metricValue metrics "bytes_read"

/-- The artifact of a checkpoint: the first one that the intent names. -/
def intentArtifact (intent : CommitIntent) :
    Except FactoryError (Option ArtifactId) :=
  match intent.artifactIds.head? with
  | none => .ok none
  | some artifact => do
      let artifactId ← identifierOf .artifact artifact
      .ok (some artifactId)

/-- `CheckpointWrite(...)` of `build`. -/
def intentCheckpoint (intent : CommitIntent) (times : IntentTimes) :
    Except FactoryError CheckpointWrite := do
  let expectedPartitionKey ← partitionKeyOf intent.partitionKey
  let artifactId ← intentArtifact intent
  .ok {
    expectedPartitionKey
    payloadSchemaVersion := checkpointPayloadSchemaVersion
    sourceCursor := none
    outputPosition := none
    artifactId
    committedAt := times.finishedAt }

/-- A successful result needs a checkpoint; any other one has none. -/
def wrapCommand (intent : CommitIntent) (times : IntentTimes)
    (command : CommitWorkAttempt) : Except FactoryError CommitCommand :=
  if intent.outcome.targetState = .succeeded then do
    require intent.proposesCheckpoint
      (.rejection "successful results must propose a durable checkpoint")
    let checkpoint ← intentCheckpoint intent times
    .ok (.withCheckpoint { command with checkpoint })
  else
    .ok (.attempt command)

/-- `DurableResultCommitFactory.build`. -/
def buildCommitCommand (correlationId : Option Text) (intent : CommitIntent) :
    Except FactoryError CommitCommand := do
  let classification ← requireClassification intent
  let times ← intentTimes intent
  let metrics ← metricMap intent.result
  let claim ← intentClaim intent times
  let event ← completionEvent correlationId intent claim classification times
  let runId ← identifierOf .run intent.runId
  let nodeId ← identifierOf .node intent.nodeId
  wrapCommand intent times {
    runId
    nodeId
    claim
    completion := intentCompletion intent times classification metrics
    metrics := metricDelta metrics
    expectedNodeRowVersion := intent.expectedNodeRowVersion
    expectedRunRowVersion := intent.expectedRunRowVersion
    event }

/-! ## The adapter -/

/-- `facts_match`, apart from the checkpoint. -/
def CommitCommand.matchesFacts (command : CommitCommand)
    (intent : CommitIntent) : Bool :=
  let base := command.base
  base.runId.value == intent.runId &&
    base.nodeId.value == intent.nodeId &&
    base.claim.workItemId.value == intent.workItemId &&
    base.claim.attemptNumber.number == intent.attemptNumber &&
    base.claim.rowVersion == intent.leaseFence &&
    base.claim.leaseOwner == intent.leaseOwner &&
    base.completion.finishedAt == intent.observedAtMicros &&
    base.claim.leaseExpiresAt == intent.leaseExpiresAtMicros &&
    base.expectedRunRowVersion == intent.expectedRunRowVersion &&
    base.expectedNodeRowVersion == intent.expectedNodeRowVersion &&
    base.event.expectedNextSequence == intent.nextEventSequence &&
    base.event.expectedCounterRowVersion == intent.eventCounterRowVersion &&
    base.completion.targetState == intent.outcome.targetState &&
    command.checkpoint?.isSome == intent.checkpointProposed

/-- What the adapter compares of a checkpoint. -/
def CheckpointWrite.matchesIntent (checkpoint : CheckpointWrite)
    (intent : CommitIntent) : Bool :=
  checkpoint.expectedPartitionKey.value == intent.partitionKey &&
    match checkpoint.artifactId with
    | none => true
    | some artifact => intent.artifactIds.contains artifact.value

/-- `_validate_command` of the adapter. -/
def validateAgainstIntent (command : CommitCommand) (intent : CommitIntent) :
    Except FactoryError Unit :=
  require (command.matchesFacts intent &&
      match command.checkpoint? with
      | none => true
      | some checkpoint => checkpoint.matchesIntent intent)
    (.rejection
      "result command does not match the validated intent and durable frontier")

end Build

end ParityGrid.Application
