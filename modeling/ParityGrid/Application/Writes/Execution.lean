import ParityGrid.Adapters.Persistence.Repositories.RunNodeAggregates

/-!
# Execution commands

The commands that record how an attempt ended, with or without a checkpoint,
and the texts that their events carry.
-/

namespace ParityGrid.Application

open ParityGrid.Foundation
open ParityGrid.Domain (ArtifactId NodeId PartitionKey RunId)
open ParityGrid.Adapters.Persistence (WorkMetricDelta)

/-- `WORK_RESULT_EVENT_PAYLOAD_SCHEMA_VERSION`. -/
def workResultEventPayloadSchemaVersion : Int := 2

/-! ## Instants as texts -/

def microsecondsPerDay : Int := 86400000000

/-- Year, month and day of a number of days since the epoch. -/
def civilDate (days : Int) : Nat × Nat × Nat :=
  -- years are counted from the first of March, in eras of four centuries
  let shifted := days + 719468
  let era := shifted / 146097
  let dayOfEra := (shifted - era * 146097).toNat
  let yearOfEra := (dayOfEra - dayOfEra / 1460 + dayOfEra / 36524 -
    dayOfEra / 146096) / 365
  let dayOfYear := dayOfEra - (365 * yearOfEra + yearOfEra / 4 - yearOfEra / 100)
  let shiftedMonth := (5 * dayOfYear + 2) / 153
  let day := dayOfYear - (153 * shiftedMonth + 2) / 5 + 1
  let month := if shiftedMonth < 10 then shiftedMonth + 3 else shiftedMonth - 9
  let year := yearOfEra + era.toNat * 400 + if month ≤ 2 then 1 else 0
  (year, month, day)

/-- The calendar fields of an instant. -/
def instantCivil (instant : Instant) : Domain.Civil :=
  let date := civilDate (instant / microsecondsPerDay)
  let micros := (instant % microsecondsPerDay).toNat
  { year := date.1
    month := date.2.1
    day := date.2.2
    hour := micros / 3600000000
    minute := micros / 60000000 % 60
    second := micros / 1000000 % 60
    microsecond := micros % 1000000 }

/-- `str(timestamp)`. -/
def instantText (instant : Instant) : Text :=
  let civil := instantCivil instant
  zeroPadded 4 civil.year ++ point '-' :: zeroPadded 2 civil.month ++
    point '-' :: zeroPadded 2 civil.day ++
    point 'T' :: zeroPadded 2 civil.hour ++
    point ':' :: zeroPadded 2 civil.minute ++
    point ':' :: zeroPadded 2 civil.second ++
    point '.' :: zeroPadded 6 civil.microsecond ++ [point 'Z']

example : instantText 951782400000001 = text "2000-02-29T00:00:00.000001Z" := by
  decide +kernel

/-! ## Commands -/

section Commands

variable [CasefoldRuntime]

structure TransitionRun where
  runId : RunId
  expectedRunRowVersion : Int
  targetState : Domain.RunState
  transitionedAt : Instant
  executionEvidenceFingerprint : Option Domain.StateFingerprint
  executionEvidenceFingerprintVersion : Option Int
  event : EventAppendRequest
deriving DecidableEq

structure FinalizeEmptyRunNode where
  runId : RunId
  nodeId : NodeId
  expectedNodeRowVersion : Int
  expectedRunRowVersion : Int
  finalizedAt : Instant
  event : EventAppendRequest
deriving DecidableEq

structure CommitWorkAttempt where
  runId : RunId
  nodeId : NodeId
  claim : WorkClaim
  completion : WorkCompletion
  metrics : WorkMetricDelta
  expectedNodeRowVersion : Int
  expectedRunRowVersion : Int
  event : EventAppendRequest
deriving DecidableEq

/-- The fields of `CommitWorkAttempt`, and a checkpoint. -/
structure CommitWorkWithCheckpoint extends CommitWorkAttempt where
  checkpoint : CheckpointWrite
deriving DecidableEq

/-- `CommitWorkAttempt | CommitWorkWithCheckpoint`. -/
inductive CommitCommand where
  | attempt (command : CommitWorkAttempt)
  | withCheckpoint (command : CommitWorkWithCheckpoint)
deriving DecidableEq

/-- The fields that both commands have. -/
def CommitCommand.base : CommitCommand → CommitWorkAttempt
  | .attempt command => command
  | .withCheckpoint command => command.toCommitWorkAttempt

def CommitCommand.checkpoint? : CommitCommand → Option CheckpointWrite
  | .attempt _ => none
  | .withCheckpoint command => some command.checkpoint

/-- What every completion event says of its command. -/
def completionPayload (claim : WorkClaim) (nodeId : Text)
    (target : Domain.WorkItemState)
    (classification : Option Domain.FailureClassification)
    (retryAvailableAt : Option Instant) : List (Text × JsonValue) :=
  [(text "attempt_number", .int claim.attemptNumber.number),
    (text "failure_classification",
      match classification with
      | none => .null
      | some failure => .string (text failure.value)),
    (text "node_id", .string nodeId),
    (text "retry_available_at",
      match retryAvailableAt with
      | none => .null
      | some retryAt => .string (instantText retryAt)),
    (text "runner_kind", .string claim.runnerKind),
    (text "target_state", .string (text target.value))]

/-- What the event of a checkpoint adds. -/
def checkpointPayload (artifactId : Option Text) (schemaVersion : Int)
    (partitionKey : Text) : List (Text × JsonValue) :=
  [(text "artifact_id",
      match artifactId with
      | none => .null
      | some artifact => .string artifact),
    (text "checkpoint_payload_schema_version", .int schemaVersion),
    (text "partition_key", .string partitionKey)]

end Commands

end ParityGrid.Application
