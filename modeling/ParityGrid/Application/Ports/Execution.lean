import ParityGrid.Application.Execution.ClockPolicy
import ParityGrid.Application.Ports.Configuration
import ParityGrid.Domain.Pipeline
import ParityGrid.Domain.Temporal

/-!
# Durable execution records

The rows of a run as the application sees them: the run, its nodes, its work
items and the attempts that completed.
-/

namespace ParityGrid.Application

open ParityGrid.Foundation
open ParityGrid.Domain (AttemptNumber Duration NodeId PartitionKey PipelineId
  PipelineVersion RunId StateFingerprint WorkItemId)

/-- Aggregate execution status of one node. -/
inductive RunNodeStatus where
  | pending
  | running
  | succeeded
  | partiallySucceeded
  | failed
  | cancelled
deriving DecidableEq

def RunNodeStatus.value : RunNodeStatus → String
  | .pending => "pending"
  | .running => "running"
  | .succeeded => "succeeded"
  | .partiallySucceeded => "partially_succeeded"
  | .failed => "failed"
  | .cancelled => "cancelled"

/-- Durable outcome of one completed or recovered work attempt. -/
inductive AttemptOutcome where
  | succeeded
  | retryScheduled
  | quarantined
  | failed
  | cancelled
  | leaseExpired
deriving DecidableEq

/-- The outcomes after which the work item waits for another attempt. -/
def AttemptOutcome.isRetry : AttemptOutcome → Bool
  | .retryScheduled => true
  | .leaseExpired => true
  | _ => false

section Records

variable [PythonRuntime]

structure RunRecord where
  runId : RunId
  pipelineId : PipelineId
  pipelineVersion : PipelineVersion
  runnerKind : Text
  runnerConfiguration : ConfigurationDocument
  state : Domain.RunState
  rowVersion : Int
  scenarioSeed : Option Int
  createdAt : Instant
  startedAt : Option Instant
  finishedAt : Option Instant
  cancellationRequestedAt : Option Instant
  recoveryStartedAt : Option Instant
  recoveredAt : Option Instant
  executionEvidenceFingerprint : Option StateFingerprint
  executionEvidenceFingerprintVersion : Option Int
deriving DecidableEq

structure WorkItemRecord where
  workItemId : WorkItemId
  runId : RunId
  nodeId : NodeId
  partitionKey : PartitionKey
  state : Domain.WorkItemState
  rowVersion : Int
  completedAttemptCount : Int
  expectedCheckpointVersion : Int
  inputReference : Option ConfigurationDocument
  retryAvailableAt : Option Instant
  leaseOwner : Option Text
  leaseExpiresAt : Option Instant
  activeAttemptNumber : Option AttemptNumber
  activeAttemptStartedAt : Option Instant
  activeRunnerKind : Option Text
  activeWorkerIdentity : Option Text
  createdAt : Instant
  updatedAt : Instant
deriving DecidableEq

/-- The capability that a claim of a work item hands out. -/
structure WorkClaim where
  workItemId : WorkItemId
  attemptNumber : AttemptNumber
  leaseOwner : Text
  rowVersion : Int
  startedAt : Instant
  leaseExpiresAt : Instant
  runnerKind : Text
  workerIdentity : Text
deriving DecidableEq

structure WorkAttemptRecord where
  workItemId : WorkItemId
  attemptNumber : AttemptNumber
  startedAt : Instant
  finishedAt : Instant
  runnerKind : Text
  workerIdentity : Text
  outcome : AttemptOutcome
  failureClassification : Option Domain.FailureClassification
  redactedDetail : Option Text
  resultReference : Option ConfigurationDocument
  recordsProcessed : Int
  bytesProcessed : Int
  duration : Duration
deriving DecidableEq

/-- What a runner reports of one attempt. -/
structure WorkCompletion where
  targetState : Domain.WorkItemState
  finishedAt : Instant
  retryAvailableAt : Option Instant
  failureClassification : Option Domain.FailureClassification
  redactedDetail : Option Text
  resultReference : Option ConfigurationDocument
  recordsProcessed : Int
  bytesProcessed : Int
deriving DecidableEq

structure CompletedWork where
  workItem : WorkItemRecord
  attempt : WorkAttemptRecord
deriving DecidableEq

end Records

structure RunNodeRecord where
  runId : RunId
  nodeId : NodeId
  status : RunNodeStatus
  rowVersion : Int
  workTotal : Int
  workPending : Int
  workRunning : Int
  workSucceeded : Int
  workQuarantined : Int
  workFailed : Int
  workCancelled : Int
  recordsRead : Int
  recordsWritten : Int
  recordsQuarantined : Int
  bytesRead : Int
  bytesWritten : Int
  retryCount : Int
  duration : Duration
  startedAt : Option Instant
  finishedAt : Option Instant
deriving DecidableEq

/-! ## Identities of the examples -/

section Sample

open ParityGrid.Domain (validateIdentifier validateStableText
  validateSequenceNumber)

theorem sampleRun_valid :
    validateIdentifier .run (text "run_first") = .ok () := by
  decide

theorem samplePipeline_valid :
    validateIdentifier .pipeline (text "pip_inventory") = .ok () := by
  decide

theorem sampleNode_valid :
    validateIdentifier .node (text "nod_extract") = .ok () := by
  decide

theorem sampleWork_valid :
    validateIdentifier .workItem (text "wrk_one") = .ok () := by
  decide

theorem samplePage_valid :
    validateStableText .partitionKey (text "page-1") = .ok () := by
  decide

theorem firstNumber_valid : validateSequenceNumber 1 = .ok () := rfl

theorem thirdNumber_valid : validateSequenceNumber 3 = .ok () := rfl

end Sample

end ParityGrid.Application
