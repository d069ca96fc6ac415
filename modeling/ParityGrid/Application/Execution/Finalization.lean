import ParityGrid.Application.Execution.FinalizationEvidence
import ParityGrid.Application.Writes.Execution
import ParityGrid.Foundation.Effects

/-!
# Finalizing a run

The finalizer reads one durable frontier of a run.  A terminal run is checked
and reported as it stands; for a running one it derives the outcome, commits
the nodes without work and moves the run to its terminal state.  Whatever the
reader, the clock, the analytics and the writer answer comes from the world.
-/

namespace ParityGrid.Application

open ParityGrid.Foundation
open ParityGrid.Adapters.Persistence (isPortableIdentity)
open ParityGrid.Domain (Duration NodeId RunId StateFingerprint WorkItemId)

/-- What `finalize` raises. -/
inductive FinalizeError where
  | evidence (error : FinalizationError)
  | busy (message : String)
  | stateRead (message : String)
  | admission (message : String)
  | rejected (message : String)
  | analytics (message : String)
  | outcomeUnknown (message : String)
  | protocol (message : String)
  | verification (message : String)
  /-- Any other `Exception`. -/
  | escaped (error : PythonError)
  | redaction (error : ConsistencyError)
  /-- A `BaseException` of a collaborator. -/
  | interrupted
deriving DecidableEq

/-! ## Digests of a report -/

def AttemptOutcome.value : AttemptOutcome → String
  | .succeeded => "succeeded"
  | .retryScheduled => "retry_scheduled"
  | .quarantined => "quarantined"
  | .failed => "failed"
  | .cancelled => "cancelled"
  | .leaseExpired => "lease_expired"

/-- `None if value is None else str(value)`. -/
def optionalInstant : Option Instant → JsonValue
  | none => .null
  | some instant => .string (instantText instant)

section Finalization

variable [CasefoldRuntime]

/-- The order of `ordered_attempts`. -/
def attemptOrder (attempt : WorkAttemptRecord) : Text ×ₗ Int :=
  toLex (attempt.workItemId.value, attempt.attemptNumber.number)

/-- The document of `_source_sha256`. -/
def sourceDocument (evidence : FinalizationEvidence) : JsonValue :=
  .object
    [(text "run", .object
      [(text "created_at", .string (instantText evidence.run.createdAt)),
        (text "finished_at", optionalInstant evidence.run.finishedAt),
        (text "row_version", .int evidence.run.rowVersion),
        (text "run_id", .string evidence.run.runId.value),
        (text "started_at", optionalInstant evidence.run.startedAt),
        (text "state", .string (text evidence.run.state.value))]),
      (text "nodes", .array
        ((sortedBy (fun node => nodeOrder node.nodeId) evidence.nodes).map
          fun node => .object
            [(text "bytes_read", .int node.bytesRead),
              (text "bytes_written", .int node.bytesWritten),
              (text "duration_microseconds", .int node.duration.microseconds),
              (text "node_id", .string node.nodeId.value),
              (text "records_quarantined", .int node.recordsQuarantined),
              (text "records_read", .int node.recordsRead),
              (text "records_written", .int node.recordsWritten),
              (text "retry_count", .int node.retryCount),
              (text "row_version", .int node.rowVersion),
              (text "state", .string (text node.status.value)),
              (text "work", .array
                ([node.workTotal, node.workPending, node.workRunning,
                  node.workSucceeded, node.workQuarantined, node.workFailed,
                  node.workCancelled].map .int))])),
      (text "work_items", .array
        ((sortedBy (fun work => work.workItemId.value) evidence.work).map
          fun work => .object
            [(text "completed_attempt_count", .int work.completedAttemptCount),
              (text "node_id", .string work.nodeId.value),
              (text "state", .string (text work.state.value)),
              (text "work_item_id", .string work.workItemId.value)])),
      (text "attempts", .array
        ((sortedBy attemptOrder evidence.attempts).map fun attempt => .object
          [(text "attempt_number", .int attempt.attemptNumber.number),
            (text "duration_microseconds", .int attempt.duration.microseconds),
            (text "outcome", .string (text attempt.outcome.value)),
            (text "work_item_id", .string attempt.workItemId.value)]))]

/-- `_source_sha256`. -/
def sourceSha256 (evidence : FinalizationEvidence) : Except PythonError Text := do
  let encoded ← jsonDumps (sourceDocument evidence).sortKeys
  .ok (sha256 (encodeAscii encoded)).hex

/-- `_projection_digest`. -/
def projectionDigest (evidence : FinalizationEvidence) :
    Except PythonError Text := do
  let encoded ← jsonEncode (.object
    [(text "attempt_count", .int evidence.attempts.length),
      (text "node_count", .int evidence.nodes.length),
      (text "run_id", .string evidence.run.runId.value),
      (text "work_count", .int evidence.work.length)])
  .ok (sha256 encoded).hex

/-! ## Outcomes -/

inductive FinalizationAction where
  | finalized
  | alreadyFinalized
deriving DecidableEq

inductive FinalizationOutcome where
  | succeeded
  | partiallySucceeded
  | failed
  | cancelled
deriving DecidableEq

/-- `_derive_outcome`. -/
def deriveOutcome (evidence : FinalizationEvidence) : FinalizationOutcome :=
  if evidence.work.any fun work => work.state == .failed then .failed
  else if evidence.work.all fun work => work.state == .succeeded then .succeeded
  else .partiallySucceeded

/-- `_target_state`. -/
def FinalizationOutcome.targetState : FinalizationOutcome → Domain.RunState
  | .succeeded => .succeeded
  | .partiallySucceeded => .partiallySucceeded
  | _ => .failed

/-- `_RUN_EVENT_KINDS`. -/
def runEventKind : Domain.RunState → Text
  | .succeeded => text "run_succeeded"
  | .partiallySucceeded => text "run_partially_succeeded"
  | _ => text "run_failed"

/-- `_require_derivation_agreement`. -/
def requireDerivationAgreement (evidence : FinalizationEvidence)
    (summary : RunStatisticsSummary) : Except FinalizeError Unit :=
  [(summary.workFailed, Domain.WorkItemState.failed),
    (summary.workSucceeded, .succeeded), (summary.workQuarantined, .quarantined),
    (summary.workCancelled, .cancelled)].forM fun count =>
      require
        (count.1 == (evidence.work.countP fun work => work.state == count.2))
        (.protocol "finalization analytics counts are inconsistent")

/-- `_require_plan_nodes`. -/
def requirePlanNodes (evidence : FinalizationEvidence)
    (planNodes : List NodeId) : Except FinalizeError Unit :=
  require
    (sorted (evidence.nodes.map fun node => node.nodeId.value) ==
      sorted (planNodes.map fun nodeId => nodeId.value))
    (.evidence (.conflict "durable nodes do not match the captured plan"))

/-- The nodes that `finalize` commits itself: pending ones without work. -/
def FinalizationEvidence.emptyNodes (evidence : FinalizationEvidence) :
    List RunNodeRecord :=
  evidence.nodes.filter fun node =>
    node.workTotal == 0 && node.status == .pending

/-- `_require_headroom`. -/
def requireHeadroom (evidence : FinalizationEvidence) (arrows : Int) :
    Except FinalizeError Unit :=
  let maximum := maxConsistencySequence - arrows
  require
    (evidence.run.rowVersion ≤ maximum &&
      evidence.nextEventSequence ≤ maximum &&
      evidence.eventCounterRowVersion ≤ maximum)
    (.evidence (.invalidRequest
      "finalization frontier cannot advance its arrows"))

/-- The times that the clock may not precede. -/
def finalizationTimes (run : RunRecord) : List Instant :=
  some run.createdAt :: [run.startedAt, run.cancellationRequestedAt,
    run.recoveryStartedAt, run.recoveredAt] |>.filterMap id

/-! ## Commands -/

def finalizationEventPayloadSchemaVersion : Int := 1

def emptyNodeEventPayloadSchemaVersion : Int := 1

/-- `EXECUTION_EVIDENCE_FINGERPRINT_VERSION`. -/
def executionEvidenceFingerprintVersion : Int := 2

/-- `RedactedDocument.from_mapping` of an event payload. -/
def eventPayload (fields : List (Text × JsonValue)) :
    Except FinalizeError RedactedDocument :=
  (RedactedDocument.fromMapping fields).mapError .redaction

/-- `_empty_node_command`. -/
def emptyNodeCommand (evidence : FinalizationEvidence) (node : RunNodeRecord)
    (runRowVersion : Int) (transitionedAt : Instant)
    (correlation : Option Text) : Except FinalizeError FinalizeEmptyRunNode := do
  let payload ← eventPayload [(text "node_id", .string node.nodeId.value)]
  .ok {
    runId := evidence.run.runId
    nodeId := node.nodeId
    expectedNodeRowVersion := node.rowVersion
    expectedRunRowVersion := runRowVersion
    finalizedAt := transitionedAt
    event := {
      expectedNextSequence := evidence.nextEventSequence
      expectedCounterRowVersion := evidence.eventCounterRowVersion
      event := {
        eventKind := text "run_node_succeeded"
        occurredAt := transitionedAt
        subject := .run evidence.run.runId
        correlationId := correlation
        payloadSchemaVersion := emptyNodeEventPayloadSchemaVersion
        payload } } }

/-- What the event of the terminal transition says. -/
def transitionPayload (previous target : Domain.RunState)
    (fingerprint : Option StateFingerprint) : List (Text × JsonValue) :=
  [(text "final_fingerprint",
      match fingerprint with
      | none => .null
      | some fingerprint => .string fingerprint.value),
    (text "from_state", .string (text previous.value)),
    (text "to_state", .string (text target.value))]

/-- `_transition_command`. -/
def transitionCommand (evidence : FinalizationEvidence)
    (target : Domain.RunState) (transitionedAt : Instant)
    (fingerprint : Option StateFingerprint) (correlationId : Option Text) :
    Except FinalizeError TransitionRun := do
  let payload ← eventPayload
    (transitionPayload evidence.run.state target fingerprint)
  .ok {
    runId := evidence.run.runId
    expectedRunRowVersion := evidence.run.rowVersion
    targetState := target
    transitionedAt
    executionEvidenceFingerprint := fingerprint
    executionEvidenceFingerprintVersion :=
      if fingerprint.isSome then some executionEvidenceFingerprintVersion
      else none
    event := {
      expectedNextSequence := evidence.nextEventSequence
      expectedCounterRowVersion := evidence.eventCounterRowVersion
      event := {
        eventKind := runEventKind target
        occurredAt := transitionedAt
        subject := .run evidence.run.runId
        correlationId
        payloadSchemaVersion := finalizationEventPayloadSchemaVersion
        payload } } }

/-- `_expected_empty_node`. -/
def expectedEmptyNode (command : FinalizeEmptyRunNode) : RunNodeRecord where
  runId := command.runId
  nodeId := command.nodeId
  status := .succeeded
  rowVersion := command.expectedNodeRowVersion + 1
  workTotal := 0
  workPending := 0
  workRunning := 0
  workSucceeded := 0
  workQuarantined := 0
  workFailed := 0
  workCancelled := 0
  recordsRead := 0
  recordsWritten := 0
  recordsQuarantined := 0
  bytesRead := 0
  bytesWritten := 0
  retryCount := 0
  duration := ⟨0, by decide⟩
  startedAt := some command.finalizedAt
  finishedAt := some command.finalizedAt

/-- `_expected_final_run`. -/
def expectedFinalRun (previous : RunRecord) (command : TransitionRun) :
    RunRecord :=
  { previous with
    state := command.targetState
    rowVersion := previous.rowVersion + 1
    finishedAt := some command.transitionedAt
    executionEvidenceFingerprint := command.executionEvidenceFingerprint
    executionEvidenceFingerprintVersion :=
      command.executionEvidenceFingerprintVersion }

/-- `_advanced_run`, which leaves the fingerprint version out. -/
def advancedRun (run : RunRecord) (rowVersion : Int) : RunRecord :=
  { run with
    rowVersion
    executionEvidenceFingerprintVersion := none }

/-- The evidence after one empty node was committed. -/
def FinalizationEvidence.advance (evidence : FinalizationEvidence)
    (runRowVersion : Int) (record : RunNodeRecord)
    (nextSequence counterRowVersion : Int) :
    Except FinalizationError FinalizationEvidence := do
  let advanced : FinalizationEvidence := {
    run := advancedRun evidence.run runRowVersion
    nextEventSequence := nextSequence
    eventCounterRowVersion := counterRowVersion
    nodes := evidence.nodes.map fun replaced =>
      if replaced.nodeId = record.nodeId then record else replaced
    work := evidence.work
    attempts := evidence.attempts
    checkpointVersions := evidence.checkpointVersions }
  advanced.validate
  .ok advanced

/-- The loop of `_project_empty_nodes`. -/
def projectEmptyNodes (correlation : Option Text) (transitionedAt : Instant) :
    List RunNodeRecord → Int → FinalizationEvidence →
      Except FinalizeError FinalizationEvidence
  | [], _, evidence => .ok evidence
  | node :: rest, runRowVersion, evidence => do
      let command ← emptyNodeCommand evidence node runRowVersion transitionedAt
        correlation
      let advanced ← (evidence.advance (runRowVersion + 1)
        (expectedEmptyNode command) (evidence.nextEventSequence + 1)
        (evidence.eventCounterRowVersion + 1)).mapError .evidence
      projectEmptyNodes correlation transitionedAt rest (runRowVersion + 1)
        advanced

end Finalization

end ParityGrid.Application
